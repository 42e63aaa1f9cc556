import ScriptDeps.Proofs.Parse.Run
import ScriptDeps.Proofs.Parse.Ways

namespace ScriptDeps.Parse

open Grammar (Action Leads)
open Stack (Follows Keeps Slice Sliced)
open Parse.Tree (Route Sound ordinary)

/-! # Rules are applied along the automaton

A rule is applied in a state that has it, to trees that were taken off along a way of the automaton,
and the tree that it builds is put on where its symbol leads on. Where a source can end, what was read
last is a whole program. Main statements:

* `Stack.Linked.reduce`: applying a rule keeps the stack linked and all older versions as they are;
* `Parser.Linked`: what holds of all that the parser knows;
* `Parser.Linked.complete`: the trees of whole sources are sound.
-/

/-! ## Applying rules -/

/-- The best reading is the reading of one of the slices. -/
theorem bestReading_eq (symbol shape : Nat) (first : Slice) (others : List Slice) :
    ∃ x ∈ first :: others, bestReading symbol shape first others =
      (.build symbol (Tree.splitExtras x.trees).1 shape, (Tree.splitExtras x.trees).2) := by
  unfold bestReading
  dsimp only
  refine List.foldlRecOn (motive := fun best => ∃ x ∈ first :: others, best =
      (Tree.build symbol (Tree.splitExtras x.trees).1 shape, (Tree.splitExtras x.trees).2))
    others _ ⟨first, List.mem_cons_self, rfl⟩ fun best hbest x hx => ?_
  split
  · exact ⟨x, List.mem_cons_of_mem first hx, rfl⟩
  · exact hbest

namespace Stack

variable {s s' : Stack} {k v w : Nat}

/-- A slice that a rule can be applied to in a state. -/
structure Slice.Reads (q count : Nat) (x : Slice) : Prop where
  sound : ∀ t ∈ x.trees, Sound t
  route : ∃ p, Route p x.trees q
  length : ordinary x.trees = count

/-- The rule builds a sound tree, and the trees behind it belong to no rule. -/
theorem Slice.Reads.build {rule q count shape token : Nat} {weight : Int} {x : Slice}
    (h : x.Reads q count)
    (hrule : .reduce rule count weight shape ∈ (Grammar.state q).actions token) :
    Sound (.build rule (Tree.splitExtras x.trees).1 shape) ∧
      ∀ t ∈ (Tree.splitExtras x.trees).2, Sound t ∧ t.extra = true := by
  obtain ⟨p, hroute⟩ := h.route
  obtain ⟨hshort, hordinary⟩ := hroute.splitExtras
  obtain ⟨htrees, hextras⟩ := Sound.splitExtras h.sound
  rw [← h.length, ← hordinary] at hrule
  exact ⟨.build htrees hshort hrule, hextras⟩

/-- In an order, the versions behind all those that equal the first are later ones. -/
theorem lt_of_mem_drop {n : Nat} {xs : List Slice} (hsorted : xs.Pairwise (·.version ≤ ·.version))
    (hn : ∀ x ∈ xs, n ≤ x.version) :
    ∀ x ∈ xs.drop (xs.takeWhile (·.version == n)).length, n < x.version := by
  induction xs with
  | nil => exact fun x hx => absurd hx List.not_mem_nil
  | cons y rest ih =>
    obtain ⟨hy, hrest⟩ := List.pairwise_cons.1 hsorted
    obtain ⟨hfirst, hlater⟩ := List.forall_mem_cons.1 hn
    by_cases heq : y.version = n
    · rw [List.takeWhile_cons_of_pos (by simpa using heq)]
      exact ih hrest hlater
    · rw [List.takeWhile_cons_of_neg (by simpa using heq)]
      have hlt : n < y.version := by omega
      exact List.forall_mem_cons.2 ⟨hlt, fun x hx => Nat.lt_of_lt_of_le hlt (hy x hx)⟩

/-- A new tree and the extra trees behind it are put on a version. -/
theorem Linked.pushReading (hs : Linked s) (hv : v < s.size) (hk : k ≤ v) {t : Tree}
    {extras : List Tree} (ht : Sound t) (hextra : t.extra = false)
    (hsymbol : Grammar.tokenCount ≤ t.symbol) (hextras : ∀ u ∈ extras, Sound u ∧ u.extra = true)
    {target : Nat} (htarget : target = Grammar.successor (s.top v).state t.symbol) :
    Linked ((s.push v (some t) target).pushAll v extras target) ∧
      Keeps k s ((s.push v (some t) target).pushAll v extras target) ∧
      ((s.push v (some t) target).pushAll v extras target).size = s.size := by
  have hfits : Fits (s.top v).state (some t) target := by
    refine ⟨ht, ?_⟩
    rw [hextra, if_neg Bool.false_ne_true]
    by_cases hzero : target = 0
    · exact .inl hzero
    · rw [htarget] at hzero ⊢
      exact .inr (Grammar.leads_successor hzero (.inl hsymbol))
  have hpushed := hs.push v hfits
  obtain ⟨hlinked, hkeeps, hsize, -⟩ := hpushed.pushAll (by rwa [size_push]) (top_push hv) hextras hk
  exact ⟨hlinked, (Keeps.push (by omega) hk _ _).trans hkeeps, by rw [hsize, size_push]⟩

theorem Linked.mergeBelow (hs : Linked s) {except : Nat} (h : mergeBelow s v except = some s')
    (hv : v < s.size) : Linked s' ∧ s'.size = s.size - 1 ∧ ∀ k ≤ v, Keeps k s s' := by
  obtain ⟨w, hmerge⟩ := exists_merge_of_find h
  obtain ⟨hlinked, hrest⟩ := hs.merge hmerge
  exact ⟨hlinked, hrest hv⟩

/-- Applying a rule changes no version from before. -/
theorem Linked.applyRule {rule count shape q token : Nat} {weight : Int}
    (hrule : .reduce rule count weight shape ∈ (Grammar.state q).actions token)
    (before version limit n : Nat) {slices : List Slice} (removed : Nat) (hs : Linked s)
    (hreads : ∀ x ∈ slices, x.Reads q count)
    (hversions : ∀ x ∈ slices, before + removed ≤ x.version ∧ x.version < s.size + removed)
    (hsorted : slices.Pairwise (·.version ≤ ·.version)) (hbefore : before ≤ s.size) :
    Linked (applyRule rule weight shape version limit n slices removed s) ∧
      Keeps before s (applyRule rule weight shape version limit n slices removed s) := by
  induction n generalizing slices removed s with
  | zero => exact ⟨hs, .refl hbefore⟩
  | succ n ih =>
    cases slices with
    | nil => exact ⟨hs, .refl hbefore⟩
    | cons x rest =>
      obtain ⟨hfirst, hlast⟩ := hversions x List.mem_cons_self
      obtain ⟨hx, hrest⟩ := List.pairwise_cons.1 hsorted
      have hlater := lt_of_mem_drop hrest hx
      have hmem : ∀ y ∈ rest.drop (rest.takeWhile (·.version == x.version)).length, y ∈ x :: rest :=
        fun y hy => List.mem_cons_of_mem x (List.mem_of_mem_drop hy)
      have hordered := hrest.sublist (List.drop_sublist
        (rest.takeWhile (·.version == x.version)).length rest)
      unfold Parse.applyRule
      dsimp only
      generalize rest.drop (rest.takeWhile (·.version == x.version)).length = later
        at hlater hmem hordered ⊢
      -- the later versions go on as they are, or move up by one
      have hnext : ∀ {s' : Stack} {removed' : Nat}, Linked s' → Keeps before s s' →
          (removed' = removed ∧ s'.size = s.size ∨
            removed' = removed + 1 ∧ s'.size = s.size - 1) →
          Linked (Parse.applyRule rule weight shape version limit n later removed' s') ∧
            Keeps before s (Parse.applyRule rule weight shape version limit n later removed' s') := by
        intro s' removed' hs' hkeeps hsize
        have hversions' : ∀ y ∈ later,
            before + removed' ≤ y.version ∧ y.version < s'.size + removed' := by
          intro y hy
          have hlow : x.version < y.version := hlater y hy
          have hhigh := (hversions y (hmem y hy)).2
          omega
        obtain ⟨hlinked, hkept⟩ := ih removed' hs' (fun y hy => hreads y (hmem y hy)) hversions'
          hordered hkeeps.versions
        exact ⟨hlinked, hkeeps.trans hkept⟩
      -- a version too many is removed, any other gets the tree of its best reading
      split
      · have hsize : (s.remove (x.version - removed)).size = s.size - 1 := size_remove (by omega)
        exact hnext (hs.remove _) (.remove (by omega) (by omega)) (.inr ⟨rfl, hsize⟩)
      · obtain ⟨y, hy, hbest⟩ := bestReading_eq rule shape x
          (rest.takeWhile (·.version == x.version))
        have hyreads : y.Reads q count := by
          refine hreads y ?_
          rcases List.mem_cons.1 hy with rfl | hy
          · exact List.mem_cons_self
          · exact List.mem_cons_of_mem x ((List.takeWhile_sublist _).subset hy)
        rw [hbest]
        dsimp only
        obtain ⟨htree, hextras⟩ := hyreads.build hrule
        obtain ⟨hpushed, hkeeps, hsize⟩ := hs.pushReading (v := x.version - removed) (k := before)
          (by omega) (by omega) (htree.weighted _) rfl (Grammar.rule_bounds hrule).1 hextras rfl
        split
        · next s' hmerge =>
          obtain ⟨hmerged, hone, hkept⟩ := hpushed.mergeBelow hmerge (by omega)
          exact hnext hmerged (hkeeps.trans (hkept before (by omega))) (.inr ⟨rfl, by omega⟩)
        · exact hnext hpushed hkeeps (.inl ⟨rfl, hsize⟩)

/-- Applying a rule in a state that has it changes no older version. A new version stands behind
them. -/
theorem Linked.reduce {rule count shape token version : Nat} {weight : Int} (hs : Linked s)
    (hrule : .reduce rule count weight shape ∈
      (Grammar.state (s.top version).state).actions token) :
    Linked (reduce s version rule count weight shape).1 ∧
      Keeps s.size s (reduce s version rule count weight shape).1 ∧
      ∀ w, (reduce s version rule count weight shape).2 = some w →
        s.size ≤ w ∧ w < (reduce s version rule count weight shape).1.size := by
  have hsliced := hs.pop version count
  have hreads : ∀ x ∈ (s.pop version count).2, x.Reads (s.top version).state count := by
    intro x hx
    obtain ⟨-, -, w, ⟨hw, hdepth⟩, -, htrees⟩ := hsliced.found x hx
    obtain ⟨-, hroute, hordinary⟩ := hw.route (Grammar.rule_ne_zero hrule)
    rw [← htrees] at hroute hordinary
    exact ⟨by rw [htrees]; exact hw.sound, ⟨_, hroute⟩, by rw [← hordinary, hdepth]⟩
  have happlied := fun limit => Linked.applyRule hrule s.size version limit
    ((s.pop version count).2.length + 1) 0 (hsliced.linked hs) hreads
    (fun x hx => ⟨(hsliced.found x hx).1, (hsliced.found x hx).2.1⟩) hsliced.sorted
    hsliced.keeps.versions
  unfold Parse.reduce
  dsimp only
  refine ⟨(happlied _).1, hsliced.keeps.trans (happlied _).2, fun w hw => ?_⟩
  split at hw
  · next hlt =>
    cases hw
    exact ⟨Nat.le_refl _, hlt⟩
  · cases hw

end Stack

/-! ## Completing a tree -/

/-- The tree of a whole source is sound, and it shows. -/
structure Tree.IsRoot (t : Tree) : Prop where
  sound : Sound t
  visible : t.visible = true

theorem isRoot_program {ts : List Tree} (hts : ∀ t ∈ ts, Sound t)
    (hruns : ∀ t ∈ ts, t.symbol ≠ errorRun) :
    (Tree.build Grammar.programSymbol ts 0).IsRoot := by
  have hvisible : (shownAs Grammar.programSymbol).visible = true := by decide +kernel
  exact ⟨.program hts hruns, hvisible⟩

theorem isRoot_error {ts : List Tree} (hts : ∀ t ∈ ts, Sound t) :
    (Tree.build errorSymbol ts 0).IsRoot := by
  have hvisible : (shownAs errorSymbol).visible = true := by decide +kernel
  exact ⟨.error (.inl rfl) hts, hvisible⟩

/-- What the parser knows is sound, and there are at least so many versions. -/
structure Parser.Linked (k : Nat) (p : Parser) : Prop where
  stack : p.stack.Linked
  versions : k ≤ p.stack.size
  finished : ∀ t, p.finished = some t → t.IsRoot
  lastToken : ∀ t, p.lastToken = some t → t.IsToken

/-- Only the stack has changed. -/
theorem Parser.Linked.withStack {k l : Nat} {p : Parser} (hp : p.Linked k) {s : Stack}
    (hs : s.Linked) (hl : l ≤ s.size) : Parser.Linked l { p with stack := s } :=
  ⟨hs, hl, hp.finished, hp.lastToken⟩

theorem Parser.Linked.halt {k : Nat} {p : Parser} (hp : p.Linked k) (version : Nat) :
    Parser.Linked k { p with stack := p.stack.halt version } :=
  hp.withStack (hp.stack.halt version) (by rw [Stack.size_halt]; exact hp.versions)

/-- The root has the symbol of the last tree that is not extra, and its children among the others. -/
theorem rootOf_spec {ts : List Tree} {root : Tree} (h : rootOf ts = some root) :
    ∃ before t, (Tree.splitExtras ts).1 = before ++ [t] ∧
      root = .build t.symbol (before ++ t.children ++ (Tree.splitExtras ts).2) 0 := by
  unfold rootOf at h
  dsimp only at h
  split at h
  · next t before htrees =>
    cases h
    exact ⟨before.reverse, t, List.reverse_eq_cons_iff.1 htrees, rfl⟩
  · cases h

/-- Where a source can end, a whole program was read. -/
theorem isRoot_of_accept {s : Stack} {w : Stack.Way} (hw : Follows s Grammar.acceptState w)
    {lookahead root : Tree} (hlookahead : lookahead.IsToken)
    (hend : lookahead.symbol = Grammar.endSymbol)
    (h : rootOf (w.trees ++ [lookahead]) = some root) : root.IsRoot := by
  obtain ⟨-, hroute, -⟩ := hw.route (by decide)
  have hall := hroute.append (.extra (hlookahead.extra.2 hend) .nil)
  have hsound : ∀ t ∈ w.trees ++ [lookahead], Sound t :=
    List.forall_mem_append.2 ⟨hw.sound, List.forall_mem_singleton.2 hlookahead.sound⟩
  have hruns := hall.not_errorRun hsound
  generalize w.trees ++ [lookahead] = ts at hall hsound hruns h
  obtain ⟨before, t, hsplit, rfl⟩ := rootOf_spec h
  have htrees : ts = before ++ [t] ++ (Tree.splitExtras ts).2 := by
    rw [← hsplit, Tree.splitExtras_append]
  have hlast : Route _ (before ++ [t]) Grammar.acceptState := hsplit ▸ hall.splitExtras.1
  obtain ⟨r, hleads⟩ := hlast.leads_last (Tree.not_extra_of_splitExtras hsplit)
  have hsymbol : t.symbol = Grammar.programSymbol := hleads.eq_program
  -- the program stands among the trees around it
  have hmem : ∀ u ∈ before ++ t.children ++ (Tree.splitExtras ts).2, u ∈ ts ∨ u ∈ t.children := by
    intro u hu
    rw [htrees]
    simp only [List.mem_append] at hu ⊢
    tauto
  have ht : t ∈ ts := by rw [htrees]; simp
  rw [hsymbol]
  refine isRoot_program (fun u hu => ?_) fun u hu => ?_
  · exact (hmem u hu).elim (hsound u) ((hsound t ht).children u)
  · refine (hmem u hu).elim (hruns u) ((hsound t ht).runs ?_ u)
    rw [hsymbol]
    decide

/-- Where a source could not be read to its end, there is an error around everything. -/
theorem isRoot_of_error {s : Stack} {q : Nat} {w : Stack.Way} (hw : Follows s q w)
    {lookahead root : Tree} {place : Source.Position} (hlookahead : lookahead.IsToken)
    (hend : lookahead.symbol = Grammar.endSymbol)
    (h : rootOf (w.trees ++ [.emptyError place, lookahead]) = some root) : root.IsRoot := by
  have hempty : Sound (.emptyError place) := .of_token rfl rfl fun hextra => nomatch hextra
  have hsplit : Tree.splitExtras (w.trees ++ [.emptyError place, lookahead]) =
      (w.trees ++ [.emptyError place], [lookahead]) := by
    rw [Tree.splitExtras_eq]
    simp [hlookahead.extra.2 hend, Tree.emptyError]
  obtain ⟨before, t, hbefore, rfl⟩ := rootOf_spec h
  rw [hsplit] at hbefore ⊢
  obtain ⟨rfl, ht⟩ := List.append_inj' hbefore rfl
  rw [← List.singleton_inj.1 ht]
  refine isRoot_error fun u hu => ?_
  simp only [Tree.emptyError, List.append_nil, List.mem_append, List.mem_singleton] at hu
  rcases hu with hu | rfl
  · exact hw.sound u hu
  · exact hlookahead.sound

/-- A version is completed, if the trees on it make a root with those behind them. -/
theorem Parser.Linked.complete {k : Nat} {p : Parser} (hp : p.Linked k) (version : Nat)
    {ending : List Tree} (hroot : ∀ w, Follows p.stack (p.stack.top version).state w →
      ∀ root, rootOf (w.trees ++ ending) = some root → root.IsRoot) :
    (complete p version ending).Linked k := by
  have hsliced := hp.stack.popAll version
  unfold Parse.complete
  dsimp only
  generalize p.stack.popAll version = r at hsliced
  obtain ⟨s, slices⟩ := r
  dsimp only at hsliced ⊢
  -- what is left of the versions ends here
  have hended : ∀ {s : Stack}, s.Linked → k ≤ s.size →
      ((ending.foldl (fun s t => s.finish version t) s).halt version).Linked ∧
        k ≤ ((ending.foldl (fun s t => s.finish version t) s).halt version).size := by
    intro s hs hk
    obtain ⟨hlinked, hsize⟩ := List.foldlRecOn (motive := fun s : Stack => s.Linked ∧ k ≤ s.size)
      ending (fun s t => s.finish version t) ⟨hs, hk⟩ fun s hs t _ =>
        ⟨hs.1.finish version t, by rw [Stack.size_finish]; exact hs.2⟩
    exact ⟨hlinked.halt version, by rwa [Stack.size_halt]⟩
  obtain ⟨hremoved, hmany⟩ := hp.stack.removeFirst hsliced
  obtain ⟨hdone, hversions⟩ := hended hremoved (Nat.le_trans hp.versions hmany)
  refine Parser.Linked.withStack (k := k) ?_ hdone hversions
  refine List.foldlRecOn (motive := Parser.Linked k) slices _ hp fun q hq x hx => ?_
  split
  · exact hq
  · next root hrootOf =>
    obtain ⟨-, -, w, hw, -, htrees⟩ := hsliced.found x hx
    rw [htrees] at hrootOf
    have hfinished : ∀ (better : Bool) t,
        (if better then some root else q.finished) = some t → t.IsRoot := by
      intro better t ht
      split at ht
      · cases ht
        exact hroot w hw _ hrootOf
      · exact hq.finished t ht
    exact ⟨hq.stack, hq.versions, fun t ht => hfinished _ t ht, hq.lastToken⟩

end ScriptDeps.Parse

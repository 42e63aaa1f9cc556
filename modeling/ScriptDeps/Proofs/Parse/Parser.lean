import ScriptDeps.Proofs.Parse.Run
import ScriptDeps.Proofs.Parse.Stack
import ScriptDeps.Proofs.Parse.Token
import ScriptDeps.Proofs.Text.Utf8
import ScriptDeps.Syntax.Text

namespace ScriptDeps.Parse

open Source (Between)
open Grammar (Action)

/-! # Nodes lie between glyphs

The parser takes tokens, applies rules, merges versions of its stack and recovers from errors. None
of this makes a place that no token has, so that all nodes of a syntax tree start and stop between
two glyphs of the source. Main statements:

* `Parser.Within`: all places that the parser knows have a property;
* `Parser.Within.work`: acting on a token keeps the property;
* `parse_between`: the bounds of all nodes lie between glyphs;
* `exists_text_of_occurs`: if the source is a text, so is every node.
-/

section

variable {P : Nat → Prop}

/-- All places that the parser knows have the property. -/
structure Parser.Within (P : Nat → Prop) (p : Parser) : Prop where
  stack : p.stack.Within P
  finished : ∀ t, p.finished = some t → t.Within P
  lastToken : ∀ t, p.lastToken = some t → t.Within P

/-- Only the stack has changed. -/
theorem Parser.Within.withStack {p : Parser} (hp : p.Within P) {s : Stack} (hs : s.Within P) :
    Parser.Within P { p with stack := s } :=
  ⟨hs, hp.finished, hp.lastToken⟩

/-! ## Applying rules -/

/-- The best reading consists of trees that the slices have. -/
theorem bestReading_within (hzero : P 0) (symbol shape : Nat) {first : Stack.Slice}
    {others : List Stack.Slice} (hfirst : TreesWithin P first.trees)
    (hothers : Stack.SlicesWithin P others) :
    (bestReading symbol shape first others).1.Within P ∧
      TreesWithin P (bestReading symbol shape first others).2 := by
  have hslice : ∀ {x : Stack.Slice}, TreesWithin P x.trees →
      (Tree.build symbol (Tree.splitExtras x.trees).1 shape).Within P ∧
        TreesWithin P (Tree.splitExtras x.trees).2 := by
    intro x hx
    obtain ⟨htrees, hextras⟩ := Tree.Within.splitExtras hx
    exact ⟨.build hzero symbol shape htrees, hextras⟩
  unfold bestReading
  dsimp only
  refine List.foldlRecOn
    (motive := fun best : Tree × List Tree => best.1.Within P ∧ TreesWithin P best.2)
    others _ (hslice hfirst) fun best hbest other hother => ?_
  split
  · exact hslice (hothers other hother)
  · exact hbest

theorem mergeBelow_within {s s' : Stack} (hs : s.Within P) {v except : Nat}
    (h : mergeBelow s v except = some s') : s'.Within P := by
  obtain ⟨w, hmerge⟩ := Stack.exists_merge_of_find h
  exact hs.merge hmerge

theorem applyRule_within (symbol : Nat) (weight : Int) (shape version limit : Nat) (n : Nat)
    {slices : List Stack.Slice} (removed : Nat) {s : Stack} (hs : s.Within P)
    (hslices : Stack.SlicesWithin P slices) :
    (applyRule symbol weight shape version limit n slices removed s).Within P := by
  induction n generalizing slices removed s with
  | zero => exact hs
  | succ n ih =>
    cases slices with
    | nil => exact hs
    | cons x rest =>
      have hx : TreesWithin P x.trees := hslices x List.mem_cons_self
      have hrest : Stack.SlicesWithin P rest := fun y hy => hslices y (List.mem_cons_of_mem x hy)
      have hlater : ∀ k, Stack.SlicesWithin P (rest.drop k) :=
        fun k y hy => hrest y (List.mem_of_mem_drop hy)
      unfold applyRule
      dsimp only
      -- a version too many is removed, any other gets the tree of its best reading
      split
      · exact ih _ (hs.remove _) (hlater _)
      · obtain ⟨htree, hextras⟩ := bestReading_within hs.zero symbol shape hx
          fun y hy => hrest y ((List.takeWhile_sublist fun y => y.version == x.version).subset hy)
        generalize bestReading symbol shape x (rest.takeWhile fun y => y.version == x.version) = r
          at htree hextras ⊢
        obtain ⟨tree, extras⟩ := r
        have hweighted : Tree.Within P { tree with weight := tree.weight + weight } :=
          htree.congr rfl rfl rfl rfl rfl
        have hpushed := fun target => (hs.pushTree (x.version - removed) hweighted target).pushAll
          (x.version - removed) hextras target
        split
        · next s' hmerge => exact ih _ (mergeBelow_within (hpushed _) hmerge) (hlater _)
        · exact ih _ (hpushed _) (hlater _)

theorem reduce_within {s : Stack} (hs : s.Within P) (version symbol count : Nat) (weight : Int)
    (shape : Nat) : (reduce s version symbol count weight shape).1.Within P := by
  obtain ⟨hpopped, hslices⟩ := hs.pop version count
  exact applyRule_within symbol weight shape version _ _ 0 hpopped hslices

/-! ## Completing a tree -/

theorem rootOf_within (hzero : P 0) {ts : List Tree} (hts : TreesWithin P ts) {root : Tree}
    (h : rootOf ts = some root) : root.Within P := by
  unfold rootOf at h
  dsimp only at h
  split at h
  · next t before htrees =>
    cases h
    have hmem : ∀ u ∈ t :: before, u ∈ ts := by
      intro u hu
      rw [← htrees] at hu
      exact List.mem_of_mem_take (List.mem_reverse.1 hu)
    refine .build hzero _ _ fun u hu => ?_
    rcases List.mem_append.1 hu with hu | hu
    -- before the last tree, below it, or behind it
    · rcases List.mem_append.1 hu with hu | hu
      · exact hts u (hmem u (List.mem_cons_of_mem t (List.mem_reverse.1 hu)))
      · exact (hts t (hmem t List.mem_cons_self)).children u hu
    · have hrun := (List.takeWhile_sublist _).subset (List.mem_reverse.1 hu)
      exact hts u (List.mem_reverse.1 hrun)
  · cases h

theorem Parser.Within.complete {p : Parser} (hp : p.Within P) (version : Nat) {ending : List Tree}
    (hending : TreesWithin P ending) : (complete p version ending).Within P := by
  obtain ⟨hstack, hslices⟩ := hp.stack.popAll version
  unfold Parse.complete
  dsimp only
  generalize p.stack.popAll version = r at hstack hslices
  obtain ⟨s, slices⟩ := r
  dsimp only at hstack hslices ⊢
  -- every slice may make a tree of the source, and then its version ends
  refine Parser.Within.withStack ?_ ?_
  · refine List.foldlRecOn (motive := Parser.Within P) slices _ hp fun q hq x hx => ?_
    split
    · exact hq
    · next root hroot =>
      have htrees : TreesWithin P (x.trees ++ ending) := by
        intro t ht
        exact (List.mem_append.1 ht).elim (hslices x hx t) (hending t)
      have hwithin : root.Within P := rootOf_within hp.stack.zero htrees hroot
      have hfinished : ∀ (better : Bool) t,
          (if better then some root else q.finished) = some t → t.Within P := by
        intro better t ht
        split at ht
        · cases ht
          exact hwithin
        · exact hq.finished t ht
      exact ⟨hq.stack, fun t ht => hfinished _ t ht, hq.lastToken⟩
  · refine Stack.Within.halt ?_ version
    refine List.foldlRecOn (motive := Stack.Within P) ending _ ?_
      fun s hs t ht => hs.finish version (hending t ht)
    split
    · exact hstack.remove _
    · exact hstack

/-! ## Recovering -/

theorem Parser.Within.betterExists {p q : Parser} (hp : p.Within P) {version cost : Nat}
    {better : Bool} (h : betterExists p version cost = (better, q)) : q.Within P := by
  obtain ⟨s, rfl, hstems, -⟩ := stems_of_betterExists h
  exact hp.withStack (hp.stack.of_stems hstems)

theorem builds_within {s s' : Stack} {state version : Nat} (hs : s.Within P)
    (h : s.Builds state version s') : s'.Within P := by
  induction h with
  | refl => exact hs
  | reduce _ _ ih => exact reduce_within ih version _ _ _ _

theorem repairs_within {s s' : Stack} (hs : s.Within P) (h : s.Repairs s') : s'.Within P := by
  induction h with
  | refl => exact hs
  | condenses _ hcondenses ih => exact ih.of_condenses hcondenses
  | builds _ _ hbuilds ih => exact builds_within ih hbuilds
  | @inserts s' v token _ _ _ ih =>
    have hplace : P (s'.top v).place.offset := (ih.top v).place
    have habsent : (Tree.absent token (s'.top v).place).Within P :=
      .leaf hplace hplace hplace rfl rfl
    exact (ih.copy v).pushTree s'.size habsent _
  | @marks s' v _ ih =>
    have hnone : ∀ t : Tree, none = some t → t.Within P := fun t ht => nomatch ht
    exact ih.push v hnone 0

theorem goBack_within {s : Stack} (hs : s.Within P) (version depth goal : Nat) :
    (goBack s version depth goal).1.Within P := by
  obtain ⟨hstack, hslices⟩ := hs.pop version depth
  unfold goBack
  dsimp only
  generalize s.pop version depth = r at hstack hslices
  obtain ⟨s', slices⟩ := r
  dsimp only at hstack hslices ⊢
  refine List.foldlRecOn (motive := fun acc : Stack × Option Nat => acc.1.Within P) slices _ hstack
    fun acc hacc x hx => ?_
  -- a version in another state is halted; in this one, what was taken off makes an error
  split
  · exact hacc
  · split
    · exact hacc.halt _
    · obtain ⟨hpopped, herror⟩ := hacc.popError x.version
      generalize acc.1.popError x.version = r at hpopped herror ⊢
      obtain ⟨s', error⟩ := r
      dsimp only at hpopped herror ⊢
      have hinner : TreesWithin P ((error.map (·.children)).getD []) := by
        cases error with
        | none => exact fun t ht => absurd ht List.not_mem_nil
        | some e => exact (herror e rfl).children
      have hall : TreesWithin P ((error.map (·.children)).getD [] ++ x.trees) := by
        intro t ht
        rcases List.mem_append.1 ht with ht | ht
        · exact hinner t ht
        · exact hslices x hx t ht
      obtain ⟨htrees, hextras⟩ := Tree.Within.splitExtras hall
      refine Stack.Within.pushAll ?_ x.version hextras goal
      split
      · exact hpopped
      · have hbuilt := Tree.Within.build hs.zero errorSymbol 0 htrees
        exact hpopped.pushTree x.version (hbuilt.marked true) goal

theorem reverts_within {s s' : Stack} (hs : s.Within P) (h : s.Reverts s') : s'.Within P := by
  induction h with
  | refl => exact hs
  | stems _ hstems _ ih => exact ih.of_stems hstems
  | goesBack version depth _ _ ih => exact goBack_within ih version depth _

theorem Parser.Within.goBackFor {p : Parser} (hp : p.Within P) (version : Nat) (lookahead : Tree) :
    (goBackFor p version lookahead).1.Within P := by
  obtain ⟨s, hreverts, hback⟩ := exists_reverts_of_goBackFor p version lookahead
  rw [hback]
  exact hp.withStack (reverts_within hp.stack hreverts)

theorem passOverToken_within {s : Stack} (hs : s.Within P) (version : Nat) {lookahead : Tree}
    (hlookahead : lookahead.Within P) : (passOverToken s version lookahead).Within P := by
  unfold passOverToken
  dsimp only
  have htoken : Tree.Within P (if ((Grammar.state 1).actions lookahead.symbol).getLast? = some .extra
      then { lookahead with extra := true } else lookahead) := by
    split
    · exact hlookahead.marked true
    · exact hlookahead
  generalize (if ((Grammar.state 1).actions lookahead.symbol).getLast? = some .extra
      then { lookahead with extra := true } else lookahead) = token at htoken ⊢
  have hrun : (Tree.build errorRun [token] 0).Within P := by
    refine .build hs.zero _ _ fun t ht => ?_
    rw [List.mem_singleton.1 ht]
    exact htoken
  -- the token joins the run of those passed over before, or starts one
  split
  · obtain ⟨hstack, hslices⟩ := hs.pop version 1
    split
    · next s' x rest hpop =>
      rw [hpop] at hstack hslices
      have hx : TreesWithin P x.trees := hslices x List.mem_cons_self
      refine Stack.Within.pushTree ?_ version (.build hs.zero _ _ fun t ht => ?_) 0
      · refine Stack.Within.moveTo (hstack.withHeads fun y hy => ?_) _ _
        exact hstack.heads y (List.mem_of_mem_take hy)
      · rcases List.mem_append.1 ht with ht | ht
        · exact hx t ht
        · rw [List.mem_singleton.1 ht]
          exact hrun
    · next s' hpop =>
      rw [hpop] at hstack
      exact hstack.pushTree version hrun 0
  · exact hs.pushTree version hrun 0

theorem Parser.Within.recover {p : Parser} (hp : p.Within P) (version : Nat) {lookahead : Tree}
    (hlookahead : lookahead.Within P) : (recover p version lookahead).Within P := by
  have hback := (hp.withStack (hp.stack.settle version)).goBackFor version lookahead
  unfold Parse.recover
  dsimp only
  generalize Parse.goBackFor { p with stack := p.stack.settle version } version lookahead = r at hback
  obtain ⟨q, wentBack⟩ := r
  dsimp only at hback ⊢
  -- versions that were given up on the way are left out
  have hheads : ∀ x ∈ q.stack.heads.take (p.stack.settle version).size ++
      (q.stack.heads.drop (p.stack.settle version).size).filter (·.status.isActive),
      x.Within P := by
    intro x hx
    rcases List.mem_append.1 hx with hx | hx
    · exact hback.stack.heads x (List.mem_of_mem_take hx)
    · exact hback.stack.heads x (List.mem_of_mem_drop (List.mem_filter.1 hx).1)
  have hkept := hback.withStack (hback.stack.withHeads hheads)
  split
  · exact hkept.withStack (hkept.stack.halt version)
  · split
    · have hplace : P ((p.stack.settle version).top version).place.offset :=
        ((hp.stack.settle version).top version).place
      have hempty : (Tree.emptyError ((p.stack.settle version).top version).place).Within P :=
        .leaf hplace hplace hplace rfl rfl
      refine hkept.complete version fun t ht => ?_
      rcases List.mem_cons.1 ht with rfl | ht
      · exact hempty
      · rw [List.mem_singleton.1 ht]
        exact hlookahead
    · split
      · next q' hexists =>
        have hq := hkept.betterExists hexists
        exact hq.withStack (hq.stack.halt version)
      · next q' hexists =>
        have hq := hkept.betterExists hexists
        exact hq.withStack (passOverToken_within hq.stack version hlookahead)

theorem Parser.Within.handleError {p : Parser} (hp : p.Within P) (version : Nat) {lookahead : Tree}
    (hlookahead : lookahead.Within P) : (handleError p version lookahead).Within P := by
  obtain ⟨s, hrepairs, hrecover⟩ := exists_repairs_of_handleError p version lookahead
  rw [hrecover]
  have hrepaired := hp.withStack ((repairs_within hp.stack hrepairs).summarize version)
  exact hrepaired.recover version hlookahead

/-! ## Choosing among versions -/

theorem Parser.Within.resumes : Resumes (Parser.Within P) where
  condenses hp hstack := hp.withStack (hp.stack.of_condenses hstack)
  resumed := by
    intro p v h lookahead hp hhead hpaused
    have hlookahead : lookahead.Within P :=
      hp.stack.heads h (List.mem_of_getElem? hhead) lookahead hpaused
    have hactive := hp.stack.modifyHead v (f := fun h => { h with status := .active })
      fun _ _ => Head.within_of_active rfl
    exact (hp.withStack hactive).handleError v hlookahead

/-! ## Acting on a token -/

/-- What the parser knows after acting on a token has the property. -/
def Outcome.Within (P : Nat → Prop) : Outcome → Prop
  | .done p => p.Within P
  | .reduced p _ => p.Within P
  | .stuck p => p.Within P

theorem act_within (version : Nat) {lookahead : Tree} (hlookahead : lookahead.Within P)
    (actions : List Action) {o : Outcome} (ho : o.Within P) :
    (act version lookahead actions o).Within P := by
  induction actions generalizing o with
  | nil => exact ho
  | cons a rest ih =>
    have hparser : ∀ {p : Parser} (target : Nat) (extra : Bool), p.Within P →
        Parser.Within P { p with
          stack := p.stack.push version (some { lookahead with extra }) target } :=
      fun target extra hp =>
        hp.withStack (hp.stack.pushTree version (hlookahead.marked extra) target)
    rcases o with p | ⟨p, last⟩ | p
    · exact ho
    -- it does not matter whether nodes were built before
    all_goals
      have hp : p.Within P := ho
      cases a with
      | again n => exact ih ho
      | shift target => exact hparser target false hp
      | extra => exact hparser _ true hp
      | reduce symbol count weight shape =>
        exact ih (hp.withStack (reduce_within hp.stack version symbol count weight shape))
      | accept =>
        refine hp.complete version fun t ht => ?_
        rw [List.mem_singleton.1 ht]
        exact hlookahead
      | recover => exact hp.recover version hlookahead

theorem Parser.Within.work (version n : Nat) {lookahead : Tree} (hlookahead : lookahead.Within P)
    {p : Parser} (hp : p.Within P) : (work version n lookahead p).Within P := by
  induction n generalizing lookahead p with
  | zero => exact hp.withStack (hp.stack.halt version)
  | succ n ih =>
    have hstart : (Outcome.stuck p).Within P := hp
    have hact := fun actions => act_within version hlookahead actions hstart
    unfold Parse.work
    dsimp only
    -- the token is taken, nodes were built, or nothing could be done
    split
    · next q hq => exact (hq ▸ hact _ :)
    · next q last hq =>
      have hreduced : q.Within P := (hq ▸ hact _ :)
      exact ih hlookahead (hreduced.withStack (hreduced.stack.moveTo last version))
    · next q hq =>
      have hreduced : q.Within P := (hq ▸ hact _ :)
      exact hreduced.withStack (hreduced.stack.halt version)
    · next q hq =>
      have hstuck : q.Within P := (hq ▸ hact _ :)
      have hword : Tree.Within P
          { lookahead with symbol := Grammar.wordSymbol, leaf := Grammar.wordSymbol } :=
        hlookahead.congr rfl rfl rfl rfl rfl
      split
      · exact ih hword hstuck
      · exact hstuck.withStack (hstuck.stack.pause version hlookahead)

end

/-! ## Advancing -/

section

variable {bytes : ByteArray}

theorem Parser.Within.lookaheadFor {p : Parser} (hp : p.Within (Between bytes)) (version : Nat) :
    (lookaheadFor bytes p version).Within (Between bytes) :=
  lookaheadFor_of hp.lastToken (nextToken_within (p.stack.top version).state
    (p.stack.hasAdvanced version) (hp.stack.top version).place)

theorem Parser.Within.advance {p : Parser} (hp : p.Within (Between bytes)) (fuel version : Nat) :
    (advance bytes fuel version p).Within (Between bytes) := by
  have htoken := hp.lookaheadFor version
  refine Parser.Within.work version fuel htoken ⟨hp.stack, hp.finished, ?_⟩
  rintro t ⟨⟩
  exact htoken

theorem Parser.Within.runs :
    Runs bytes (fun _ => Parser.Within (Between bytes)) (Tree.Within (Between bytes)) where
  among hp _ := hp
  advance fuel version _ hp := hp.advance fuel version
  condense hp := Parser.Within.resumes.condense hp
  finished hp ht := hp.finished _ ht

/-- The nodes of a syntax tree start and stop between two glyphs of the source. -/
theorem parse_between : NodeWithin (Between bytes) (parse bytes) := by
  have hnone : ∀ t : Tree, none = some t → t.Within (Between bytes) := fun t ht => nomatch ht
  have hstart : Parser.Within (Between bytes) {} := ⟨.initial .start, hnone, hnone⟩
  unfold parse
  dsimp only
  cases ht : run bytes (1000 * (bytes.size + 10)) (1000 * (bytes.size + 10)) 0 {} with
  | some t => exact (Parser.Within.runs.run _ _ 0 hstart ht).toNode .start
  | none => exact nodeWithin_iff.2 ⟨.start, .start, fun c hc => absurd hc List.not_mem_nil⟩

end

/-- In a source that is a text, all nodes are texts. -/
theorem exists_text_of_occurs {t : Text} (ht : t.IsEncodable) {up : List Syntax.Node}
    {n : Syntax.Node} (hn : (parse (Text.toBytes t.encode)).Occurs up n) :
    ∃ u, n.text (Text.toBytes t.encode) = .ok u := by
  obtain ⟨hstart, hstop⟩ := parse_between up n hn
  obtain ⟨u, hu⟩ := Text.exists_decode_between ht hstart hstop
  refine ⟨u, ?_⟩
  unfold Syntax.Node.text
  rw [hu]

end ScriptDeps.Parse

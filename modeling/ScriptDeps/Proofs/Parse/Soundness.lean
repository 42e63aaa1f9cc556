import ScriptDeps.Proofs.Parse.Rules

namespace ScriptDeps.Parse

open Grammar (Action)
open Stack (Keeps)
open Parse.Tree (Sound)

/-! # The parser builds sound trees

Whatever the parser does, its stack follows the automaton. A token is taken where it leads on, and a
version in one state goes through the actions of that state. Recovering from an error only passes over
trees, or puts in a token that can stand there. Main statements:

* `Parser.Linked.recover`: recovering keeps the stack linked;
* `Parser.Linked.work`: so does acting on a token;
* `parse_namesApart`: in a syntax tree without errors, names stand apart from references.
-/

/-! ## Recovering -/

theorem Parser.Linked.betterExists {k : Nat} {p q : Parser} (hp : p.Linked k) {version cost : Nat}
    {better : Bool} (h : betterExists p version cost = (better, q)) : q.Linked k := by
  obtain ⟨s, rfl, hstems, hsize⟩ := stems_of_betterExists h
  exact hp.withStack (hp.stack.of_stems hstems) (by rw [hsize]; exact hp.versions)

/-- Building nodes in a state keeps the version in the state. -/
theorem builds_linked {s s' : Stack} {version : Nat} (hs : s.Linked) (hversion : version < s.size)
    (h : s.Builds (s.top version).state version s') : s'.Linked ∧ Keeps s.size s s' := by
  induction h with
  | refl => exact ⟨hs, .refl (Nat.le_refl _)⟩
  | reduce _ hrule ih =>
    obtain ⟨hlinked, hkeeps⟩ := ih
    rw [← hkeeps.top hs hversion] at hrule
    obtain ⟨hreduced, hkept, -⟩ := hlinked.reduce hrule
    exact ⟨hreduced, hkeeps.trans (hkept.mono hkeeps.versions)⟩

theorem repairs_linked {s s' : Stack} (hs : s.Linked) (h : s.Repairs s') : s'.Linked := by
  induction h with
  | refl => exact hs
  | condenses _ hcondenses ih => exact ih.of_condenses hcondenses
  | builds _ hv hbuilds ih => exact (builds_linked ih hv hbuilds).1
  | @inserts s' v token _ hzero hmoves ih =>
    -- the token can stand there, and leads on
    have hfits : Fits ((s'.copy v).top s'.size).state (some (.absent token (s'.top v).place))
        (Grammar.successor (s'.top v).state token) := by
      refine ⟨.of_token rfl rfl fun hextra => (nomatch hextra), ?_⟩
      rw [Stack.top_copy]
      exact .inr (Grammar.leads_successor hzero (.inr hmoves))
    exact (ih.copy v).push s'.size hfits
  | marks _ ih => exact ih.push _ rfl

/-- An error and the extra trees behind it leave a version in its state. -/
theorem pushError_linked {s : Stack} (hs : s.Linked) {v goal : Nat} (hv : v < s.size)
    (hgoal : (s.top v).state = goal) {trees extras : List Tree} (htrees : ∀ t ∈ trees, Sound t)
    (hextras : ∀ t ∈ extras, Sound t ∧ t.extra = true) {s' : Stack}
    (h : (if trees.isEmpty then s
      else s.push v (some { Tree.build errorSymbol trees 0 with extra := true }) goal) = s') :
    (s'.pushAll v extras goal).Linked ∧ (s'.pushAll v extras goal).size = s.size := by
  have hready : s'.Linked ∧ s'.size = s.size ∧ (s'.top v).state = goal := by
    rw [← h]
    split
    · exact ⟨hs, rfl, hgoal⟩
    · have hfits : Fits (s.top v).state
          (some { Tree.build errorSymbol trees 0 with extra := true }) goal := by
        refine ⟨.extraError htrees, ?_⟩
        rw [if_pos rfl, hgoal]
      exact ⟨hs.push v hfits, Stack.size_push .., Stack.top_push hv⟩
  obtain ⟨hlinked, hsize, htop⟩ := hready
  obtain ⟨hpushed, -, hsame, -⟩ := hlinked.pushAll (k := 0) (by omega) htop hextras (Nat.zero_le _)
  exact ⟨hpushed, hsame.trans hsize⟩

/-- Going back pushes trees only in the state that it goes back to. -/
theorem goBack_linked {s : Stack} (hs : s.Linked) (version depth : Nat) {goal : Nat}
    (hgoal : goal ≠ 0) : (goBack s version depth goal).1.Linked ∧
      s.size ≤ (goBack s version depth goal).1.size := by
  have hsliced := hs.pop version depth
  unfold goBack
  dsimp only
  generalize s.pop version depth = r at hsliced
  obtain ⟨s', slices⟩ := r
  dsimp only at hsliced ⊢
  have hall : ∀ acc : Stack × Option Nat, acc.1.Linked ∧ s'.size ≤ acc.1.size →
      acc.1.Linked ∧ s.size ≤ acc.1.size :=
    fun acc hacc => ⟨hacc.1, Nat.le_trans hsliced.keeps.versions hacc.2⟩
  refine hall _ (List.foldlRecOn (motive := fun acc : Stack × Option Nat =>
    acc.1.Linked ∧ s'.size ≤ acc.1.size) slices _ ⟨hsliced.linked hs, Nat.le_refl _⟩ ?_)
  rintro ⟨t, last⟩ ⟨ht, hsize⟩ x hx
  obtain ⟨-, hversion, w, ⟨hw, -⟩, -, htrees⟩ := hsliced.found x hx
  dsimp only at ht hsize ⊢
  -- a version in another state is halted; in this one, what was taken off makes an error
  split
  · exact ⟨ht, hsize⟩
  · split
    · exact ⟨ht.halt _, by rwa [Stack.size_halt]⟩
    · next hstate =>
      have hgoalState : (t.top x.version).state = goal := not_not.1 hstate
      obtain ⟨hpopped, hmore, hbelow, herror⟩ := ht.popError (v := x.version) (by omega)
      rw [hgoalState] at hbelow
      generalize t.popError x.version = r at hpopped hmore hbelow herror ⊢
      obtain ⟨u, error⟩ := r
      dsimp only at hpopped hmore hbelow herror ⊢
      have hinner : ∀ e ∈ (error.map (·.children)).getD [], Sound e := by
        cases error with
        | none => exact fun e he => absurd he List.not_mem_nil
        | some e => exact (herror e rfl).children
      have htaken : ∀ e ∈ x.trees, Sound e := by
        rw [htrees]
        exact hw.sound
      obtain ⟨htrees, hextras⟩ := Sound.splitExtras (List.forall_mem_append.2 ⟨hinner, htaken⟩)
      obtain ⟨hlinked, hsame⟩ := pushError_linked hpopped (v := x.version) (by omega) (hbelow hgoal)
        htrees hextras rfl
      exact ⟨hlinked, Nat.le_trans (Nat.le_trans hsize hmore) (Nat.le_of_eq hsame.symm)⟩

theorem reverts_linked {s s' : Stack} (hs : s.Linked) (h : s.Reverts s') :
    s'.Linked ∧ s.size ≤ s'.size := by
  induction h with
  | refl => exact ⟨hs, Nat.le_refl _⟩
  | stems _ hstems hsize ih => exact ⟨ih.1.of_stems hstems, by rw [hsize]; exact ih.2⟩
  | goesBack version depth _ hgoal ih =>
    obtain ⟨hlinked, hsize⟩ := goBack_linked ih.1 version depth hgoal
    exact ⟨hlinked, Nat.le_trans ih.2 hsize⟩

theorem Parser.Linked.goBackFor {k : Nat} {p : Parser} (hp : p.Linked k) (version : Nat)
    (lookahead : Tree) : (goBackFor p version lookahead).1.Linked k := by
  obtain ⟨s, hreverts, hback⟩ := exists_reverts_of_goBackFor p version lookahead
  obtain ⟨hlinked, hsize⟩ := reverts_linked hp.stack hreverts
  rw [hback]
  exact hp.withStack hlinked (Nat.le_trans hp.versions hsize)

/-- A run of tokens that are passed over takes a version to where errors are passed over. -/
theorem passOverToken_linked {s : Stack} (hs : s.Linked) (version : Nat) {lookahead : Tree}
    (hlookahead : lookahead.IsToken) : (passOverToken s version lookahead).Linked ∧
      s.size ≤ (passOverToken s version lookahead).size := by
  unfold passOverToken
  dsimp only
  have htoken : Sound (if ((Grammar.state 1).actions lookahead.symbol).getLast? = some .extra
      then { lookahead with extra := true } else lookahead) := by
    split
    · next hextra => exact hlookahead.besides (List.mem_of_getLast? hextra)
    · exact hlookahead.sound
  generalize (if ((Grammar.state 1).actions lookahead.symbol).getLast? = some .extra
      then { lookahead with extra := true } else lookahead) = token at htoken ⊢
  have htokens : ∀ t ∈ [token], Sound t := List.forall_mem_singleton.2 htoken
  have hrun : ∀ {s : Stack} {ts : List Tree}, s.Linked → (∀ t ∈ ts, Sound t) →
      (s.push version (some (.build errorRun ts 0)) 0).Linked :=
    fun hs hts => hs.push version ⟨.error (.inr rfl) hts, .inl rfl⟩
  split
  · have hsliced := hs.pop version 1
    split
    · next s' x rest hpop =>
      rw [hpop] at hsliced
      have hlinked : s'.Linked := hsliced.linked hs
      obtain ⟨hnew, hversion, w, ⟨hw, -⟩, -, htrees⟩ := hsliced.found x List.mem_cons_self
      -- the tokens that were passed over before are in one run with this one
      have htaken : ∀ t ∈ x.trees ++ [.build errorRun [token] 0], Sound t := by
        rw [htrees]
        exact List.forall_mem_append.2
          ⟨hw.sound, List.forall_mem_singleton.2 (.error (.inr rfl) htokens)⟩
      have hheads : Stack.Linked { s' with heads := s'.heads.take (x.version + 1) } :=
        hlinked.withHeads fun y hy => hlinked.heads y (List.mem_of_mem_take hy)
      refine ⟨hrun (hheads.moveTo _ _) htaken, ?_⟩
      have hmoved := Stack.le_size_moveTo { s' with heads := s'.heads.take (x.version + 1) }
        x.version version
      have htake : Stack.size { s' with heads := s'.heads.take (x.version + 1) } =
          x.version + 1 := List.length_take_of_le hversion
      rw [Stack.size_push]
      omega
    · next s' hpop =>
      rw [hpop] at hsliced
      exact ⟨hrun (hsliced.linked hs) htokens,
        Nat.le_trans hsliced.keeps.versions (Nat.le_of_eq (Stack.size_push ..).symm)⟩
  · exact ⟨hrun hs htokens, Nat.le_of_eq (Stack.size_push ..).symm⟩

theorem Parser.Linked.recover {k : Nat} {p : Parser} (hp : p.Linked k) (version : Nat)
    {lookahead : Tree} (hlookahead : lookahead.IsToken) :
    (recover p version lookahead).Linked k := by
  have hsettled : Parser.Linked p.stack.size { p with stack := p.stack.settle version } :=
    hp.withStack (hp.stack.settle version) (Nat.le_of_eq (Stack.size_settle ..).symm)
  have hback := hsettled.goBackFor version lookahead
  unfold Parse.recover
  dsimp only
  generalize Parse.goBackFor { p with stack := p.stack.settle version } version lookahead = r at hback
  obtain ⟨q, wentBack⟩ := r
  dsimp only at hback ⊢
  rw [Stack.size_settle]
  -- versions that were given up on the way are left out
  have hkept : Parser.Linked k { q with stack := { q.stack with
      heads := q.stack.heads.take p.stack.size ++
        (q.stack.heads.drop p.stack.size).filter (·.status.isActive) } } := by
    refine hback.withStack (hback.stack.withHeads fun x hx => ?_) ?_
    · rcases List.mem_append.1 hx with hx | hx
      · exact hback.stack.heads x (List.mem_of_mem_take hx)
      · exact hback.stack.heads x (List.mem_of_mem_drop (List.mem_filter.1 hx).1)
    · have htake : (q.stack.heads.take p.stack.size).length = p.stack.size :=
        List.length_take_of_le hback.versions
      rw [Stack.size, List.length_append, htake]
      exact Nat.le_trans hp.versions (Nat.le_add_right ..)
  split
  · exact hkept.halt version
  · split
    · next hend =>
      exact hkept.complete version fun w hw root hroot =>
        isRoot_of_error hw hlookahead hend hroot
    · split
      · next q' hexists =>
        exact (hkept.betterExists hexists).halt version
      · next q' hexists =>
        have hq := hkept.betterExists hexists
        obtain ⟨hlinked, hsize⟩ := passOverToken_linked hq.stack version hlookahead
        exact hq.withStack hlinked (Nat.le_trans hq.versions hsize)

theorem Parser.Linked.handleError {k : Nat} {p : Parser} (hp : p.Linked k) (version : Nat)
    {lookahead : Tree} (hlookahead : lookahead.IsToken) :
    (handleError p version lookahead).Linked 0 := by
  obtain ⟨s, hrepairs, hrecover⟩ := exists_repairs_of_handleError p version lookahead
  rw [hrecover]
  have hrepaired : Parser.Linked 0 _ :=
    hp.withStack ((repairs_linked hp.stack hrepairs).summarize version) (Nat.zero_le _)
  exact hrepaired.recover version hlookahead

/-! ## Choosing among versions -/

theorem Parser.Linked.resumes : Resumes (Parser.Linked 0) where
  condenses hp hstack := hp.withStack (hp.stack.of_condenses hstack) (Nat.zero_le _)
  resumed := by
    intro p v h lookahead hp hhead hpaused
    have hlookahead : lookahead.IsToken :=
      (hp.stack.heads h (List.mem_of_getElem? hhead)).waits lookahead hpaused
    have hactive := hp.stack.modifyHead v (f := fun h => { h with status := .active })
      fun h hh => ⟨hh.joint, fun t ht => nomatch ht⟩
    have hresumed : Parser.Linked 0 _ := hp.withStack hactive (Nat.zero_le _)
    exact hresumed.handleError v hlookahead

/-! ## Acting on a token -/

section

variable {version q : Nat} {lookahead : Tree} {p : Parser} {last : Option Nat}

/-- What holds while the actions of one state are done: the version is still in that state, and what
was built stands behind it. -/
structure Parser.AtWork (version q : Nat) (p : Parser) (last : Option Nat) : Prop where
  linked : p.Linked (version + 1)
  state : (p.stack.top version).state = q
  last : ∀ w, last = some w → version < w ∧ w < p.stack.size

/-- What the parser knows after acting on a token is sound. -/
def Outcome.Linked (version q : Nat) : Outcome → Prop
  | .done p => p.Linked (version + 1)
  | .reduced p last => p.AtWork version q last
  | .stuck p => p.AtWork version q none

theorem Parser.AtWork.push (h : p.AtWork version q last) {tree : Tree} {target : Nat}
    (hfits : Fits q (some tree) target) :
    Parser.Linked (version + 1) { p with stack := p.stack.push version (some tree) target } := by
  refine h.linked.withStack (h.linked.stack.push version ?_) ?_
  · rwa [h.state]
  · rw [Stack.size_push]
    exact h.linked.versions

/-- Building nodes leaves the version where it is. -/
theorem Parser.AtWork.reduce (h : p.AtWork version q last) {rule count shape token : Nat}
    {weight : Int} (hrule : .reduce rule count weight shape ∈ (Grammar.state q).actions token) :
    Parser.AtWork version q { p with stack := (reduce p.stack version rule count weight shape).1 }
      ((reduce p.stack version rule count weight shape).2.orElse fun _ => last) := by
  rw [← h.state] at hrule
  obtain ⟨hlinked, hkeeps, hnew⟩ := h.linked.stack.reduce hrule
  have hversion : version < p.stack.size := h.linked.versions
  refine ⟨h.linked.withStack hlinked (Nat.le_trans hversion hkeeps.versions), ?_, fun w hw => ?_⟩
  · rw [← h.state]
    exact hkeeps.top h.linked.stack hversion
  · cases hreduced : (Parse.reduce p.stack version rule count weight shape).2 with
    | some v =>
      rw [hreduced] at hw
      obtain ⟨hfirst, hlast⟩ := hnew v hreduced
      cases hw
      exact ⟨Nat.lt_of_lt_of_le hversion hfirst, hlast⟩
    | none =>
      rw [hreduced] at hw
      obtain ⟨hfirst, hlast⟩ := h.last w hw
      exact ⟨hfirst, Nat.lt_of_lt_of_le hlast hkeeps.versions⟩

/-- What can be done in a state at a token keeps the parser sound. -/
theorem act_linked (hlookahead : lookahead.IsToken) {actions : List Action}
    (hactions : ∀ a ∈ actions, a ∈ (Grammar.state q).actions lookahead.symbol) {o : Outcome}
    (ho : o.Linked version q) : (act version lookahead actions o).Linked version q := by
  induction actions generalizing o with
  | nil => exact ho
  | cons a rest ih =>
    obtain ⟨ha, hrest⟩ := List.forall_mem_cons.1 hactions
    rcases o with p | ⟨p, last⟩ | p
    · exact ho
    -- it does not matter whether nodes were built before
    all_goals
      have hwork : p.AtWork version q _ := ho
      cases a with
      | again n => exact ih hrest ho
      | shift target =>
        exact hwork.push ⟨hlookahead.taken, .inr (.inl ha)⟩
      | extra =>
        exact hwork.push ⟨hlookahead.besides ha, hwork.state⟩
      | reduce symbol count weight shape => exact ih hrest (hwork.reduce ha)
      | accept =>
        obtain ⟨hstate, hend⟩ := Grammar.accept_spec ha
        refine hwork.linked.complete version fun w hw root hroot => ?_
        rw [hwork.state, hstate] at hw
        exact isRoot_of_accept hw hlookahead hend hroot
      | recover => exact hwork.linked.recover version hlookahead

theorem Parser.Linked.work (n : Nat) (hlookahead : lookahead.IsToken)
    (hp : p.Linked (version + 1)) : (work version n lookahead p).Linked (version + 1) := by
  induction n generalizing lookahead p with
  | zero => exact hp.halt version
  | succ n ih =>
    have hstart : (Outcome.stuck p).Linked version (p.stack.top version).state :=
      ⟨hp, rfl, fun w hw => nomatch hw⟩
    have hact := act_linked hlookahead (fun a ha => ha) hstart
    unfold Parse.work
    dsimp only
    -- the token is taken, nodes were built, or nothing could be done
    split
    · next r hr => exact (hr ▸ hact :)
    · next r last hr =>
      have hreduced : r.AtWork version _ (some last) := (hr ▸ hact :)
      obtain ⟨hfirst, hlast⟩ := hreduced.last last rfl
      have hmoved := Stack.le_size_moveTo r.stack last version
      exact ih hlookahead (hreduced.linked.withStack (hreduced.linked.stack.moveTo last version)
        (by omega))
    · next r hr =>
      have hreduced : r.AtWork version _ none := (hr ▸ hact :)
      exact hreduced.linked.halt version
    · next r hr =>
      have hstuck : r.AtWork version _ none := (hr ▸ hact :)
      split
      · next hword =>
        simp only [Bool.and_eq_true] at hword
        have hextra : lookahead.extra = false := hlookahead.keyword hword.1.1.1
        refine ih ⟨hlookahead.children, hlookahead.nodes, ?_, hlookahead.keyword⟩ hstuck.linked
        have hname : Grammar.wordSymbol ≠ Grammar.endSymbol := by decide
        rw [hextra]
        exact ⟨fun h => (nomatch h), fun h => absurd h hname⟩
      · exact hstuck.linked.withStack (hstuck.linked.stack.pause version hlookahead)
          (by rw [Stack.pause, Stack.size_modifyHead]; exact hstuck.linked.versions)

end

/-! ## Tokens -/

theorem isToken_token {symbol state : Nat} {place start stop : Source.Position} {keyword : Bool}
    (h : keyword = true → symbol ≠ Grammar.endSymbol) :
    (Tree.token symbol place start stop state keyword).IsToken where
  children := rfl
  nodes := rfl
  extra := decide_eq_true_iff
  keyword hkeyword := decide_eq_false (h hkeyword)

/-- The end of the source is no word. -/
theorem keyword_ne_end {text : List Char} {k : Nat} (h : Grammar.keyword? text = some k) :
    k ≠ Grammar.endSymbol := by
  unfold Grammar.keyword? at h
  obtain ⟨⟨word, n⟩, hfind, rfl⟩ := Option.map_eq_some_iff.1 h
  have hmem := List.mem_of_find?_eq_some hfind
  unfold Grammar.keywordTexts at hmem
  obtain ⟨m, -, hm⟩ := List.mem_filterMap.1 hmem
  split at hm
  · next hword =>
    have hn : m = n := congrArg Prod.snd (Option.some.inj hm)
    rw [← hn]
    rintro rfl
    exact absurd hword (by decide)
  · cases hm

theorem classifyWord_ne_end (state : Nat) (text : List Char) :
    (classifyWord state text).1 ≠ Grammar.endSymbol := by
  have hname : Grammar.wordSymbol ≠ Grammar.endSymbol := by decide
  unfold classifyWord
  dsimp only
  split
  · exact hname
  · split
    · next k hk =>
      dsimp only
      split
      · exact keyword_ne_end hk
      · exact hname
    · exact hname

theorem nextToken_isToken (bytes : ByteArray) (state : Nat) (advanced : Bool)
    (place : Source.Position) : (nextToken bytes state advanced place).IsToken := by
  have hplain : ∀ {symbol : Nat} {start stop : Source.Position},
      (Tree.token symbol place start stop state false).IsToken := isToken_token fun h => nomatch h
  unfold nextToken
  dsimp only
  split
  · next f hfound =>
    unfold Found.toTree
    dsimp only
    split
    · exact isToken_token fun _ => classifyWord_ne_end _ _
    · exact hplain
  · exact hplain

/-! ## Advancing -/

section

variable {bytes : ByteArray}

theorem Parser.Linked.lookaheadFor {k : Nat} {p : Parser} (hp : p.Linked k) (version : Nat) :
    (lookaheadFor bytes p version).IsToken :=
  lookaheadFor_of hp.lastToken (nextToken_isToken bytes (p.stack.top version).state
    (p.stack.hasAdvanced version) (p.stack.top version).place)

theorem Parser.Linked.advance {version : Nat} {p : Parser} (hp : p.Linked (version + 1))
    (fuel : Nat) : (advance bytes fuel version p).Linked (version + 1) := by
  have htoken : (Parse.lookaheadFor bytes p version).IsToken := hp.lookaheadFor version
  refine Parser.Linked.work fuel htoken ⟨hp.stack, hp.versions, hp.finished, ?_⟩
  rintro t ⟨⟩
  exact htoken

theorem Parser.Linked.runs : Runs bytes Parser.Linked Tree.IsRoot where
  among hp hl := ⟨hp.stack, hl, hp.finished, hp.lastToken⟩
  advance fuel _ _ hp := hp.advance fuel
  condense hp := Parser.Linked.resumes.condense hp
  finished hp ht := hp.finished _ ht

/-- In a syntax tree without errors, no identifier stands in a place of a name. -/
theorem parse_namesApart (hfaulty : (parse bytes).faulty = false) : NamesApart (parse bytes) := by
  have hnone : ∀ t : Tree, none = some t → t.IsRoot := fun t ht => nomatch ht
  have hstart : Parser.Linked 0 {} :=
    ⟨Stack.linked_initial, Nat.zero_le _, hnone, fun t ht => nomatch ht⟩
  unfold parse at hfaulty ⊢
  dsimp only at hfaulty ⊢
  cases ht : run bytes (1000 * (bytes.size + 10)) (1000 * (bytes.size + 10)) 0 {} with
  | some t =>
    rw [ht] at hfaulty
    have hroot := Parser.Linked.runs.run _ _ 0 hstart ht
    exact hroot.sound.namesApart hroot.visible hfaulty
  | none =>
    exact namesApart_iff.2 ⟨fun c hc => absurd hc List.not_mem_nil,
      fun c hc => absurd hc List.not_mem_nil⟩

end

end ScriptDeps.Parse

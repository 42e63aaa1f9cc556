import ScriptDeps.Proofs.Grammar.Names
import ScriptDeps.Proofs.Parse.Tree

namespace ScriptDeps.Parse

open Syntax (Node)
open Grammar (Leads Shape SymbolInfo isNamePlace isPlain mustBePlain shapeAt withholds)
open Scope (identifierKinds)

/-! # Names in the trees that the parser builds

A tree without errors has no identifiers where a name is no reference. This is kept whenever a rule
is applied to trees along a way through the automaton: the tree in such a place shows as another node
in the shape of the rule, or its symbol is plain. Main statements:

* `NamesApart`: no identifier of a syntax tree stands in a place of a name;
* `Tree.Sound`: this holds of what a tree shows unless there are errors in it;
* `Tree.Sound.build`: applying a rule to the trees along a way gives a sound tree.
-/

/-- No identifier in the tree stands in a place of a name. -/
def NamesApart (root : Node) : Prop :=
  ∀ up n, root.Occurs up n → ∀ c ∈ n.children, c.kind ∈ identifierKinds →
    isNamePlace n.kind c.role = false

theorem namesApart_iff {n : Node} :
    NamesApart n ↔ (∀ c ∈ n.children, c.kind ∈ identifierKinds →
      isNamePlace n.kind c.role = false) ∧ ∀ c ∈ n.children, NamesApart c := by
  constructor
  · intro h
    exact ⟨h [] n .root, fun c hc up m hm => h _ m ((Node.Occurs.root.child hc).trans hm)⟩
  · rintro ⟨hown, hbelow⟩ up m hm
    rcases hm.cases_root with ⟨rfl, rfl⟩ | ⟨c, hc, ws, hws, -⟩
    · exact hown
    · exact hbelow c hc ws m hws

/-- The node may stand below a rule of the symbol: its names are in order, and if it is an
identifier, its role is not one that the symbol withholds. -/
structure MayStand (symbol : Nat) (n : Node) : Prop where
  apart : NamesApart n
  role : n.kind ∈ identifierKinds → withholds symbol n.role = false

namespace Tree

/-- What the tree shows for its parent may stand below it. -/
def InOrder (t : Tree) : Prop := ∀ n ∈ t.nodes, MayStand t.symbol n

/-- The tree is in order unless there are errors in it. It is the same below, extra trees are no
identifiers, and what is passed over is only below errors. -/
inductive Sound : Tree → Prop
  | intro {t : Tree} :
      (∀ c ∈ t.children, Sound c) → (t.cost = 0 → InOrder t) →
      (t.extra = true → t.symbol ≠ errorRun ∧
        (t.cost = 0 → ∀ n ∈ t.shown none none, n.kind ∉ identifierKinds)) →
      (t.symbol < errorRun → ∀ c ∈ t.children, c.symbol ≠ errorRun) →
      (t.symbol < Grammar.tokenCount → t.nodes = []) → Sound t

section

variable {t : Tree} {ts : List Tree}

theorem Sound.children (h : Sound t) : ∀ c ∈ t.children, Sound c := by
  cases h
  assumption

theorem Sound.inOrder (h : Sound t) (hcost : t.cost = 0) : InOrder t := by
  cases h
  next horder _ _ _ => exact horder hcost

theorem Sound.extra (h : Sound t) (hextra : t.extra = true) :
    t.symbol ≠ errorRun ∧ (t.cost = 0 → ∀ n ∈ t.shown none none, n.kind ∉ identifierKinds) := by
  cases h
  next hshown _ _ => exact hshown hextra

theorem Sound.runs (h : Sound t) (hsymbol : t.symbol < errorRun) :
    ∀ c ∈ t.children, c.symbol ≠ errorRun := by
  cases h
  next hruns _ => exact hruns hsymbol

theorem Sound.token (h : Sound t) (hsymbol : t.symbol < Grammar.tokenCount) : t.nodes = [] := by
  cases h
  next htoken => exact htoken hsymbol

/-! ## What a tree shows -/

/-- The nodes with a role are the nodes without, but for the role of one. -/
theorem exists_of_giveRole {r : String} {ns : List Node} {n : Node}
    (h : n ∈ shown.giveRole r ns) :
    ∃ m ∈ ns, n.kind = m.kind ∧ n.children = m.children ∧ (n.role = m.role ∨ n.role = some r) := by
  induction ns with
  | nil => cases h
  | cons m rest ih =>
    cases rest with
    | nil =>
      rw [List.mem_singleton.1 h]
      exact ⟨m, List.mem_singleton_self m, rfl, rfl, Or.inr rfl⟩
    | cons k rest =>
      rcases List.mem_cons.1 h with rfl | h
      · exact ⟨n, List.mem_cons_self, rfl, rfl, Or.inl rfl⟩
      · obtain ⟨l, hl, hsame⟩ := ih h
        exact ⟨l, List.mem_cons_of_mem m hl, hsame⟩

theorem exists_of_shown {renamed : Option SymbolInfo} {role : Option String} {n : Node}
    (hhidden : (renamed.getD (shownAs t.symbol)).visible = false) (h : n ∈ t.shown renamed role) :
    ∃ m ∈ t.nodes, n.kind = m.kind ∧ n.children = m.children ∧ (n.role = m.role ∨ n.role = role) := by
  unfold Tree.shown at h
  simp only [hhidden, Bool.false_eq_true, if_false] at h
  split at h
  · exact ⟨n, h, rfl, rfl, Or.inl rfl⟩
  · exact exists_of_giveRole h

/-- What shows no other nodes shows at most as a node of its symbol. -/
theorem kind_of_shown {n : Node} (hnodes : t.nodes = []) (h : n ∈ t.shown none none) :
    (shownAs t.symbol).visible = true ∧ n.kind = (shownAs t.symbol).kind := by
  cases hvisible : (shownAs t.symbol).visible with
  | true =>
    unfold Tree.shown at h
    simp only [Option.getD_none, hvisible, if_true] at h
    rw [List.mem_singleton.1 h]
    exact ⟨rfl, rfl⟩
  | false =>
    have hhidden : ((none : Option SymbolInfo).getD (shownAs t.symbol)).visible = false := hvisible
    obtain ⟨m, hm, -⟩ := exists_of_shown hhidden h
    rw [hnodes] at hm
    cases hm

/-- A plain symbol that shows is no identifier. -/
theorem isPlain_info {symbol : Nat} (h : isPlain symbol = true)
    (hvisible : (shownAs symbol).visible = true) : (shownAs symbol).isPlain = true := by
  rw [isPlain, Bool.or_eq_true, beq_iff_eq] at h
  refine h.resolve_left ?_
  rintro rfl
  rw [Grammar.visible_propertyName] at hvisible
  cases hvisible

/-- A plain symbol that does not show withholds everything. -/
theorem withholds_of_isPlain {symbol : Nat} (h : isPlain symbol = true)
    (hhidden : (shownAs symbol).visible = false) (role : Option String) :
    withholds symbol role = true := by
  rw [isPlain, SymbolInfo.isPlain, hhidden, Bool.false_and, Bool.or_false] at h
  rw [withholds, hhidden, h]
  rfl

section

variable {symbol : Nat} {renamed : Option SymbolInfo} {role : Option String}

/-- A tree that shows as one node, below which its own nodes stand. -/
theorem InOrder.shown_visible (h : InOrder t)
    (hvisible : (renamed.getD (shownAs t.symbol)).visible = true)
    (hrenamed : ∀ info, renamed = some info → ∀ role, isNamePlace info.kind role = false)
    (hplain : withholds symbol role = true → (renamed.getD (shownAs t.symbol)).isPlain = true) :
    ∀ n ∈ t.shown renamed role, MayStand symbol n := by
  intro n hn
  unfold Tree.shown at hn
  simp only [hvisible, if_true] at hn
  rw [List.mem_singleton.1 hn]
  constructor
  case apart =>
    refine namesApart_iff.2 ⟨fun c hc hid => ?_, fun c hc => (h c (List.mem_reverse.1 hc)).apart⟩
    cases renamed with
    | some info => exact hrenamed info rfl c.role
    | none =>
      have hwithheld := (h c (List.mem_reverse.1 hc)).role hid
      have hshows : (shownAs t.symbol).visible = true := hvisible
      rwa [withholds, if_pos hshows] at hwithheld
  case role =>
    intro hid
    rw [Bool.eq_false_iff]
    intro hwithheld
    have hshows := hplain hwithheld
    rw [SymbolInfo.isPlain, hvisible, Bool.true_and, Bool.not_eq_true'] at hshows
    exact absurd (List.contains_iff_mem.2 hid) (Bool.eq_false_iff.1 hshows)

/-- A tree whose own nodes take its place. -/
theorem InOrder.shown_hidden (h : InOrder t) (hhidden : (shownAs t.symbol).visible = false)
    (hplain : withholds symbol role = true → isPlain t.symbol = true) :
    ∀ n ∈ t.shown none role, MayStand symbol n := by
  intro n hn
  have hnone : ((none : Option SymbolInfo).getD (shownAs t.symbol)).visible = false := hhidden
  obtain ⟨m, hm, hkind, hchildren, hrole⟩ := exists_of_shown hnone hn
  have hmay : MayStand t.symbol m := h m hm
  constructor
  case apart =>
    rw [namesApart_iff, hkind, hchildren, ← namesApart_iff]
    exact hmay.apart
  case role =>
    intro hid
    rw [hkind] at hid
    rw [Bool.eq_false_iff]
    intro hwithheld
    have hplace : withholds symbol role = true := by
      rcases hrole with hrole | hrole
      · rw [hrole] at hwithheld
        exact Grammar.withholds_of_hidden hwithheld hhidden (hmay.role hid) role
      · rwa [hrole] at hwithheld
    have hall := withholds_of_isPlain (hplain hplace) hhidden m.role
    rw [hmay.role hid] at hall
    cases hall

/-- The nodes that a tree shows in a place of a rule may stand there if it shows as no identifier in a
place of a name. -/
theorem InOrder.shown (h : InOrder t)
    (hrenamed : ∀ info, renamed = some info →
      info.visible = true ∧ ∀ role, isNamePlace info.kind role = false)
    (hplain : withholds symbol role = true →
      (∀ info, renamed = some info → info.isPlain = true) ∧
        (renamed = none → isPlain t.symbol = true)) :
    ∀ n ∈ t.shown renamed role, MayStand symbol n := by
  cases hvisible : (renamed.getD (shownAs t.symbol)).visible with
  | true =>
    refine h.shown_visible hvisible (fun info hinfo => (hrenamed info hinfo).2) fun hwithheld => ?_
    cases renamed with
    | some info => exact (hplain hwithheld).1 info rfl
    | none => exact isPlain_info ((hplain hwithheld).2 rfl) hvisible
  | false =>
    cases renamed with
    | some info =>
      rw [Option.getD_some, (hrenamed info rfl).1] at hvisible
      cases hvisible
    | none => exact h.shown_hidden hvisible fun hwithheld => (hplain hwithheld).2 rfl

/-- Below a symbol without places of names, whatever is in order may stand. -/
theorem InOrder.shown_free (h : InOrder t)
    (hrenamed : ∀ info, renamed = some info →
      info.visible = true ∧ ∀ role, isNamePlace info.kind role = false)
    (hfree : ∀ role, withholds symbol role = false) :
    ∀ n ∈ t.shown renamed role, MayStand symbol n := by
  refine h.shown hrenamed fun hwithheld => ?_
  rw [hfree] at hwithheld
  cases hwithheld

end

theorem visible_endSymbol : (shownAs Grammar.endSymbol).visible = false := by decide +kernel

/-! ## Building -/

/-- How a child is shown at the place in a shape. -/
def placedInfo (shape : Shape) (i : Nat) (t : Tree) : Option SymbolInfo :=
  if t.extra || t.symbol = Grammar.endSymbol then none else shape.infoAt i

/-- The role of a child at the place in a shape. -/
def placedRole (shape : Shape) (i : Nat) (t : Tree) : Option String :=
  if t.extra then none else shape.roleAt i

/-- The nodes that the trees show in a row, from the place on, have the property. -/
def AllShown (P : Node → Prop) (shape : Shape) : Nat → List Tree → Prop
  | _, [] => True
  | i, t :: ts => (∀ n ∈ t.shown (placedInfo shape i t) (placedRole shape i t), P n) ∧
      AllShown P shape (if t.extra then i else i + 1) ts

theorem sums_shown {P : Node → Prop} {shape : Shape} {isError : Bool} {s : Sums}
    (hs : ∀ n ∈ s.nodes, P n) (h : AllShown P shape s.index ts) :
    ∀ n ∈ (ts.foldl (Sums.add shape isError) s).nodes, P n := by
  induction ts generalizing s with
  | nil => exact hs
  | cons t rest ih =>
    refine ih (fun n hn => ?_) h.2
    have hadd : (Sums.add shape isError s t).nodes =
        t.shown (placedInfo shape s.index t) (placedRole shape s.index t) ++ s.nodes :=
      addNodes_eq _ _
    rw [hadd, List.mem_append] at hn
    exact hn.elim (h.1 n) (hs n)

theorem sums_cost {shape : Shape} {isError : Bool} {s : Sums}
    (h : (ts.foldl (Sums.add shape isError) s).cost = 0) :
    s.cost = 0 ∧ ∀ t ∈ ts, t.symbol ≠ errorRun → t.cost = 0 := by
  induction ts generalizing s with
  | nil => exact ⟨h, fun t ht => absurd ht List.not_mem_nil⟩
  | cons t rest ih =>
    obtain ⟨hadd, hrest⟩ := ih h
    have hsum : s.cost + (if t.symbol = errorRun then 0 else t.cost) +
        (if isError then t.passedOverCost else 0) = 0 := hadd
    refine ⟨by omega, List.forall_mem_cons.2 ⟨fun hsymbol => ?_, hrest⟩⟩
    rw [if_neg hsymbol] at hsum
    omega

theorem cost_build (symbol shape : Nat) :
    (build symbol ts shape).cost =
      (ts.foldl (Sums.add (shapeAt shape) (symbol = errorSymbol || symbol = errorRun)) {}).cost +
        if (symbol = errorSymbol || symbol = errorRun) then recoveryCost +
          distanceCost (build symbol ts shape).start (build symbol ts shape).stop else 0 := rfl

/-- Around what could not be read, there are errors. -/
theorem Sound.error {symbol : Nat} (hsymbol : symbol = errorSymbol ∨ symbol = errorRun)
    (h : ∀ t ∈ ts, Sound t) : Sound (build symbol ts 0) := by
  have hcost : (build symbol ts 0).cost ≠ 0 := by
    rw [cost_build, if_pos (by simpa using hsymbol), recoveryCost]
    omega
  have hlarge : ¬ symbol < errorRun := by
    rcases hsymbol with rfl | rfl <;> decide
  refine .intro h (fun hzero => absurd hzero hcost) (fun hextra => nomatch hextra)
    (fun hlt => absurd hlt hlarge) fun hlt => absurd (Nat.lt_trans hlt ?_) hlarge
  decide

/-- An error may belong to no rule. -/
theorem Sound.extraError (h : ∀ t ∈ ts, Sound t) :
    Sound { build errorSymbol ts 0 with extra := true } := by
  have hsound := Sound.error (Or.inl rfl) h
  have hcost : (build errorSymbol ts 0).cost ≠ 0 := by
    rw [cost_build, if_pos (by simp), recoveryCost]
    omega
  have hsymbol : errorSymbol ≠ errorRun := by decide
  exact .intro h hsound.inOrder (fun _ => ⟨hsymbol, fun hzero => absurd hzero hcost⟩) hsound.runs
    hsound.token

/-! ## Ways through the automaton -/

/-- The trees lead from one state to another. Trees that belong to no rule stay in the state. -/
inductive Route : Nat → List Tree → Nat → Prop
  | nil {q : Nat} : Route q [] q
  | extra {p q : Nat} {t : Tree} {ts : List Tree} :
      t.extra = true → Route p ts q → Route p (t :: ts) q
  | step {p r q : Nat} {t : Tree} {ts : List Tree} :
      t.extra = false → Leads p t.symbol r → Route r ts q → Route p (t :: ts) q

/-- The number of trees that belong to a rule. -/
def ordinary (ts : List Tree) : Nat := ts.countP (!·.extra)

theorem Route.mustBePlain {p q depth : Nat} (h : Route p ts q)
    (hq : mustBePlain (depth + ordinary ts) q = true) : mustBePlain depth p = true := by
  induction h generalizing depth with
  | nil => exact hq
  | extra hextra _ ih =>
    refine ih ?_
    rwa [ordinary, List.countP_cons_of_neg (by simp [hextra])] at hq
  | step hextra hleads _ ih =>
    refine hleads.mustBePlain (ih ?_)
    rw [ordinary, List.countP_cons_of_pos (by simp [hextra])] at hq
    rwa [Nat.add_right_comm]

/-- Nothing is passed over on the way. -/
theorem Route.not_errorRun {p q : Nat} (h : Route p ts q) (hts : ∀ t ∈ ts, Sound t) :
    ∀ t ∈ ts, t.symbol ≠ errorRun := by
  induction h with
  | nil => exact fun t ht => absurd ht List.not_mem_nil
  | extra hextra _ ih =>
    obtain ⟨ht, hrest⟩ := List.forall_mem_cons.1 hts
    exact List.forall_mem_cons.2 ⟨(ht.extra hextra).1, ih hrest⟩
  | step _ hleads _ ih =>
    obtain ⟨-, hrest⟩ := List.forall_mem_cons.1 hts
    exact List.forall_mem_cons.2 ⟨Nat.ne_of_lt hleads.lt_errorRun, ih hrest⟩

/-- An error on the way belongs to no rule. -/
theorem Route.eq_of_isError {p q : Nat} (h : Route p [t] q) (herror : t.isError = true) : p = q := by
  cases h with
  | extra _ hnil =>
    cases hnil
    rfl
  | step _ hleads _ =>
    have hsymbol : t.symbol = errorSymbol := eq_of_beq herror
    have hlt := hleads.lt_errorRun
    rw [hsymbol] at hlt
    exact absurd hlt (by decide)

theorem Route.append {p r q : Nat} {us : List Tree} (h : Route p ts r) (h' : Route r us q) :
    Route p (ts ++ us) q := by
  induction h with
  | nil => exact h'
  | extra hextra _ ih => exact .extra hextra (ih h')
  | step hextra hleads _ ih => exact .step hextra hleads (ih h')

/-- What belongs to no rule can be left out at the end of a way. -/
theorem Route.of_append {p q : Nat} {us : List Tree} (h : Route p (ts ++ us) q)
    (hus : ∀ t ∈ us, t.extra = true) : Route p ts q := by
  induction ts generalizing p with
  | nil =>
    induction us generalizing p with
    | nil => exact h
    | cons t rest ih =>
      obtain ⟨ht, hrest⟩ := List.forall_mem_cons.1 hus
      cases h with
      | extra _ hroute => exact ih hrest hroute
      | step hextra _ _ =>
        rw [ht] at hextra
        cases hextra
  | cons t rest ih =>
    cases h with
    | extra hextra hroute => exact .extra hextra (ih hroute)
    | step hextra hleads hroute => exact .step hextra hleads (ih hroute)

/-- The last tree of a way, if it belongs to a rule, leads to where the way ends. -/
theorem Route.leads_last {p q : Nat} (h : Route p (ts ++ [t]) q) (hextra : t.extra = false) :
    ∃ r, Leads r t.symbol q := by
  induction ts generalizing p with
  | nil =>
    cases h with
    | extra htrue _ =>
      rw [hextra] at htrue
      cases htrue
    | step _ hleads hnil =>
      cases hnil
      exact ⟨p, hleads⟩
  | cons u rest ih =>
    cases h with
    | extra _ hroute => exact ih hroute
    | step _ _ hroute => exact ih hroute

theorem splitExtras_eq (ts : List Tree) :
    splitExtras ts = ((ts.reverse.dropWhile (·.extra)).reverse,
      (ts.reverse.takeWhile (·.extra)).reverse) := by
  have hsplit : (ts.reverse.dropWhile (·.extra)).reverse ++
      (ts.reverse.takeWhile (·.extra)).reverse = ts := by
    rw [← List.reverse_append, List.takeWhile_append_dropWhile, List.reverse_reverse]
  unfold splitExtras
  dsimp only
  generalize (ts.reverse.takeWhile (·.extra)).reverse = extras at hsplit ⊢
  generalize (ts.reverse.dropWhile (·.extra)).reverse = trees at hsplit ⊢
  rw [← hsplit, List.length_append, Nat.add_sub_cancel, List.take_left]

theorem splitExtras_append (ts : List Tree) : (splitExtras ts).1 ++ (splitExtras ts).2 = ts := by
  rw [splitExtras_eq, ← List.reverse_append, List.takeWhile_append_dropWhile, List.reverse_reverse]

theorem extra_of_mem_splitExtras (h : t ∈ (splitExtras ts).2) : t.extra = true := by
  rw [splitExtras_eq] at h
  exact List.all_eq_true.1 (List.all_takeWhile (l := ts.reverse)) t (List.mem_reverse.1 h)

theorem Sound.splitExtras (hts : ∀ t ∈ ts, Sound t) :
    (∀ t ∈ (splitExtras ts).1, Sound t) ∧ ∀ t ∈ (splitExtras ts).2, Sound t ∧ t.extra = true := by
  have hall : ∀ t, t ∈ (Tree.splitExtras ts).1 ∨ t ∈ (Tree.splitExtras ts).2 → Sound t := by
    intro t ht
    refine hts t ?_
    rw [← splitExtras_append ts]
    exact List.mem_append.2 ht
  exact ⟨fun t ht => hall t (.inl ht), fun t ht => ⟨hall t (.inr ht), extra_of_mem_splitExtras ht⟩⟩

/-- The trees before the extra ones end with one that is not. -/
theorem not_extra_of_splitExtras {before : List Tree} (h : (splitExtras ts).1 = before ++ [t]) :
    t.extra = false := by
  rw [splitExtras_eq] at h
  dsimp only at h
  have hhead : (ts.reverse.dropWhile (·.extra)).head? = some t := by
    rw [← List.reverse_reverse (ts.reverse.dropWhile (·.extra)), h, List.reverse_append]
    rfl
  have hnot := List.head?_dropWhile_not (·.extra) ts.reverse
  rw [hhead] at hnot
  simpa using hnot

theorem Route.splitExtras {p q : Nat} (h : Route p ts q) :
    Route p (splitExtras ts).1 q ∧ ordinary (splitExtras ts).1 = ordinary ts := by
  have hextras : ∀ t ∈ (Tree.splitExtras ts).2, t.extra = true :=
    fun _ ht => extra_of_mem_splitExtras ht
  constructor
  · rw [← splitExtras_append ts] at h
    exact h.of_append hextras
  · conv_rhs => rw [← splitExtras_append ts]
    have hnone : ordinary (Tree.splitExtras ts).2 = 0 :=
      List.countP_eq_zero.2 fun t ht => by simp [hextras t ht]
    rw [ordinary, ordinary, List.countP_append, ← ordinary, ← ordinary, hnone, Nat.add_zero]

/-- What a tree shows by itself is in order. -/
theorem Sound.shown_apart (h : Sound t) (hcost : t.cost = 0) :
    ∀ n ∈ t.shown none none, NamesApart n := by
  have hstand : ∀ n ∈ t.shown none none, MayStand Grammar.programSymbol n :=
    (h.inOrder hcost).shown_free (fun _ hinfo => nomatch hinfo) Grammar.withholds_program
  exact fun n hn => (hstand n hn).apart

/-- What is extra may stand below any rule. -/
theorem Sound.shown_extra {symbol : Nat} (h : Sound t) (hextra : t.extra = true)
    (hcost : t.cost = 0) : ∀ n ∈ t.shown none none, MayStand symbol n := fun n hn =>
  ⟨h.shown_apart hcost n hn, fun hid => absurd hid ((h.extra hextra).2 hcost n hn)⟩

/-- The trees along a way that ends with a rule show nodes that may stand below it. -/
theorem Route.allShown {p q rule count shape token i : Nat} {weight : Int} (h : Route p ts q)
    (hrule : .reduce rule count weight shape ∈ (Grammar.state q).actions token)
    (hts : ∀ t ∈ ts, Sound t) (hcost : ∀ t ∈ ts, t.cost = 0) (hi : i + ordinary ts = count) :
    AllShown (MayStand rule) (shapeAt shape) i ts := by
  induction h generalizing i with
  | nil => trivial
  | @extra p q t rest hextra _ ih =>
    obtain ⟨ht, hrest⟩ := List.forall_mem_cons.1 hts
    obtain ⟨hzero, hzeros⟩ := List.forall_mem_cons.1 hcost
    rw [ordinary, List.countP_cons_of_neg (by simp [hextra])] at hi
    refine ⟨?_, ?_⟩
    · simp only [placedInfo, placedRole, hextra, Bool.true_or, if_true]
      exact ht.shown_extra hextra hzero
    · rw [if_pos hextra]
      exact ih hrule hrest hzeros hi
  | @step p r q t rest hextra hleads hroute ih =>
    obtain ⟨ht, hrest⟩ := List.forall_mem_cons.1 hts
    obtain ⟨hzero, hzeros⟩ := List.forall_mem_cons.1 hcost
    rw [ordinary, List.countP_cons_of_pos (by simp [hextra])] at hi
    refine ⟨?_, ?_⟩
    · simp only [placedInfo, placedRole, hextra, Bool.false_or, Bool.false_eq_true, if_false]
      by_cases hend : t.symbol = Grammar.endSymbol
      · -- the end of the source shows nothing
        have hnodes : t.nodes = [] := ht.token (by rw [hend]; decide)
        rw [if_pos (by simpa using hend)]
        intro n hn
        obtain ⟨m, hm, -⟩ := exists_of_shown (by rw [Option.getD_none, hend, visible_endSymbol]) hn
        rw [hnodes] at hm
        cases hm
      · rw [if_neg (by simpa using hend)]
        refine (ht.inOrder hzero).shown (fun info hinfo => Grammar.infoAt_spec hinfo) fun hplace => ?_
        obtain ⟨hinfo, hnone⟩ := Grammar.rule_withholds hrule (i := i) (by omega) hplace
        refine ⟨hinfo, fun hsymbol => hleads.isPlain (hroute.mustBePlain ?_)⟩
        have hdepth : 0 + ordinary rest = count - 1 - i := by rw [ordinary]; omega
        rw [hdepth]
        exact hnone hsymbol
    · rw [if_neg (by simp [hextra])]
      exact ih hrule hrest hzeros (by rw [ordinary]; omega)

/-- A rule that is applied to the trees along a way gives a sound tree. -/
theorem Sound.build {p q rule shape token : Nat} {weight : Int} (hts : ∀ t ∈ ts, Sound t)
    (h : Route p ts q)
    (hrule : .reduce rule (ordinary ts) weight shape ∈ (Grammar.state q).actions token) :
    Sound (build rule ts shape) := by
  obtain ⟨hlower, hupper⟩ := Grammar.rule_bounds hrule
  have hruns := h.not_errorRun hts
  have herror : (decide (rule = errorSymbol) || decide (rule = errorRun)) = false := by
    have hle : errorRun ≤ errorSymbol := by decide
    simp only [Bool.or_eq_false_iff, decide_eq_false_iff_not]
    omega
  refine .intro hts (fun hcost => ?_) (fun hextra => nomatch hextra) (fun _ => hruns)
    fun hlt => absurd hlt (Nat.not_lt_of_le hlower)
  rw [cost_build, herror] at hcost
  obtain ⟨-, hcosts⟩ := sums_cost (Nat.eq_zero_of_add_eq_zero hcost).1
  refine sums_shown (fun n hn => absurd hn List.not_mem_nil) ?_
  exact h.allShown hrule hts (fun t ht => hcosts t ht (hruns t ht)) (Nat.zero_add _)

/-- A whole program is sound, whatever it consists of. -/
theorem Sound.program (hts : ∀ t ∈ ts, Sound t) (hruns : ∀ t ∈ ts, t.symbol ≠ errorRun) :
    Sound (Tree.build Grammar.programSymbol ts 0) := by
  have hall : ∀ i us, (∀ t ∈ us, InOrder t) →
      AllShown (MayStand Grammar.programSymbol) (shapeAt 0) i us := by
    intro i us hus
    induction us generalizing i with
    | nil => trivial
    | cons t rest ih =>
      obtain ⟨ht, hrest⟩ := List.forall_mem_cons.1 hus
      refine ⟨ht.shown_free (fun info hinfo => ?_) Grammar.withholds_program, ih _ hrest⟩
      unfold placedInfo at hinfo
      split at hinfo
      · cases hinfo
      · exact Grammar.infoAt_spec hinfo
  refine .intro hts (fun hcost => ?_) (fun hextra => nomatch hextra) (fun _ => hruns)
    fun hlt => absurd hlt (Nat.lt_irrefl _)
  rw [cost_build] at hcost
  obtain ⟨-, hcosts⟩ := sums_cost (Nat.eq_zero_of_add_eq_zero hcost).1
  refine sums_shown (fun n hn => absurd hn List.not_mem_nil) ?_
  exact hall 0 ts fun t ht => (hts t ht).inOrder (hcosts t ht (hruns t ht))

/-- A token is sound, also at the end of the source. -/
theorem Sound.of_token (hchildren : t.children = []) (hnodes : t.nodes = [])
    (hextra : t.extra = true → t.symbol ≠ errorRun ∧
      ∀ n ∈ t.shown none none, n.kind ∉ identifierKinds) : Sound t := by
  refine .intro ?_ (fun _ => ?_) (fun h => ?_) ?_ fun _ => hnodes
  · rw [hchildren]
    exact fun c hc => absurd hc List.not_mem_nil
  · rw [InOrder, hnodes]
    exact fun n hn => absurd hn List.not_mem_nil
  · exact ⟨(hextra h).1, fun _ => (hextra h).2⟩
  · rw [hchildren]
    exact fun _ c hc => absurd hc List.not_mem_nil

theorem Sound.weighted (h : Sound t) (weight : Int) : Sound { t with weight } :=
  .intro h.children h.inOrder h.extra h.runs h.token

/-- A sound tree without errors in it shows as a tree in which names stand apart. -/
theorem Sound.namesApart (h : Sound t) (hvisible : t.visible = true)
    (hfaulty : t.toNode.faulty = false) : NamesApart t.toNode := by
  have hinfo : (shownAs t.symbol).visible = true := hvisible
  have hshown : t.shown none none = [t.toNode] := by
    unfold Tree.toNode Tree.shown
    simp only [Option.getD_none, hinfo, if_true]
    rfl
  have hcost : t.cost = 0 := by
    unfold Tree.toNode Tree.shown at hfaulty
    simp only [Option.getD_none, hinfo, if_true, List.head?_cons, Option.getD_some,
      decide_eq_false_iff_not] at hfaulty
    omega
  refine h.shown_apart hcost t.toNode ?_
  rw [hshown]
  exact List.mem_singleton_self _

end

end Tree

end ScriptDeps.Parse

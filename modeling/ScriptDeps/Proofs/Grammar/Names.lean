import ScriptDeps.Proofs.Grammar.Automaton
import ScriptDeps.Scope.Reference

namespace ScriptDeps.Grammar

open Parse (errorRun errorSymbol shownAs)
open Scope (identifierKinds)

/-! # Where the grammar has no identifiers

In some places of a syntax tree a name is no reference: it is a label, or the name of a property, a
member or an attribute. An identifier that stood there would be taken for a reference, but the
grammar has nodes of other kinds there. This is read off the automaton: where a rule with such a
place is applied, every way that leads to the state has a plain symbol in the place, which shows as
no identifier. Since there are few children behind the place, it is enough to watch the symbol right
below some states, and the symbols one and two further down below some others. Main statements:

* `Leads.isPlain`, `Leads.mustBePlain`: what is watched below a state follows from what is watched
  below the state before it;
* `rule_withholds`: a rule that is applied in a state has no identifier in a place of a name.
-/

/-! ## Places of names -/

/-- The roles in which a child only names something, by the kind of its parent. -/
def nameRoles : List (String × String) :=
  [("member_expression", "property"), ("field_definition", "property"), ("pair", "key"),
    ("pair_pattern", "key"), ("method_definition", "name"), ("labeled_statement", "label"),
    ("break_statement", "label"), ("continue_statement", "label")]

/-- The kind of an attribute in markup. Its name has no role. -/
def attributeKind : String := "jsx_attribute"

/-- A child in the role only names something. -/
def isNamePlace (parent : String) (role : Option String) : Bool :=
  parent == attributeKind || role.any fun r => nameRoles.contains (parent, r)

/-- The symbol of the name of a property, which shows only through its child. -/
def propertyName : Nat := 239

/-- A tree of the symbol has no identifier in the role. If it does not show, this is for the node
that its children will stand in, whichever it is. -/
def withholds (symbol : Nat) (role : Option String) : Bool :=
  if (shownAs symbol).visible then isNamePlace (shownAs symbol).kind role
  else symbol == propertyName || role.any fun r => nameRoles.any fun p => p.2 == r

/-- Shows as a node that is no identifier. -/
def SymbolInfo.isPlain (info : SymbolInfo) : Bool :=
  info.visible && !identifierKinds.contains info.kind

/-- A tree of the symbol does not show as an identifier, nor identifiers in its place. -/
def isPlain (symbol : Nat) : Bool := symbol == propertyName || (shownAs symbol).isPlain

theorem visible_propertyName : (shownAs propertyName).visible = false := by
  decide +kernel

/-- What is withheld, although a hidden symbol below does not withhold it, is withheld in every
role. -/
theorem withholds_of_hidden {symbol inner : Nat} {role : Option String}
    (h : withholds symbol role = true) (hhidden : (shownAs inner).visible = false)
    (hinner : withholds inner role = false) (other : Option String) :
    withholds symbol other = true := by
  have hnames : (role.any fun r => nameRoles.any fun p => p.2 == r) = false := by
    simp only [withholds, hhidden, Bool.false_eq_true, if_false, Bool.or_eq_false_iff] at hinner
    exact hinner.2
  unfold withholds at h ⊢
  split at h
  · next hvisible =>
    simp only [hvisible, if_true, isNamePlace, Bool.or_eq_true] at h ⊢
    refine Or.inl (h.resolve_right fun hrole => ?_)
    cases role with
    | none => cases hrole
    | some r =>
      have hany : (nameRoles.any fun p => p.2 == r) = true :=
        List.any_eq_true.2 ⟨_, List.contains_iff_mem.1 hrole, beq_self_eq_true r⟩
      rw [Option.any_some, hany] at hnames
      cases hnames
  · next hvisible =>
    rw [hnames, Bool.or_false] at h
    rw [if_neg hvisible, h, Bool.true_or]

/-! ## Rules -/

/-- How the child at the place shows, if not as its symbol does. -/
def Shape.infoAt (s : Shape) (i : Nat) : Option SymbolInfo :=
  (s.renamed.find? fun r => r.1 == i).map (·.2)

/-- The role of the child at the place. -/
def Shape.roleAt (s : Shape) (i : Nat) : Option String :=
  (s.roles.find? fun r => r.1 == i).map (·.2)

/-- The shape of that number. -/
def shapeAt (n : Nat) : Shape := shapes.getD n default

theorem shapeAt_eq (n : Nat) : shapeAt n = shapes.toList.getD n default := by
  rw [shapeAt, Array.getD_eq_getD_getElem?, List.getD_eq_getElem?_getD, Array.getElem?_toList]

/-- A child that does not show as its symbol does shows as a node without places of names. -/
theorem infoAt_spec {shape i : Nat} {info : SymbolInfo}
    (h : (shapeAt shape).infoAt i = some info) :
    info.visible = true ∧ ∀ role, isNamePlace info.kind role = false := by
  have hall : ∀ s ∈ shapes.toList, ∀ r ∈ s.renamed, r.2.visible = true ∧
      r.2.kind ≠ attributeKind ∧ ∀ p ∈ nameRoles, p.1 ≠ r.2.kind := by
    decide +kernel
  obtain ⟨r, hfind, rfl⟩ := Option.map_eq_some_iff.1 h
  have hr : r ∈ (shapeAt shape).renamed := List.mem_of_find?_eq_some hfind
  have hshape : shapeAt shape ∈ shapes.toList := by
    rw [shapeAt, Array.getD_eq_getD_getElem?] at hr ⊢
    cases hs : shapes[shape]? with
    | some s => exact Array.mem_toList_iff.2 (Array.mem_of_getElem? hs)
    | none =>
      rw [hs] at hr
      cases hr
  obtain ⟨hvisible, hattribute, hroles⟩ := hall _ hshape r hr
  refine ⟨hvisible, fun role => ?_⟩
  rw [isNamePlace, beq_false_of_ne hattribute, Bool.false_or, Option.any_eq_false]
  intro name _
  exact Bool.eq_false_iff.2 fun hmem => hroles _ (List.contains_iff_mem.1 hmem) rfl

/-! ## Sets of numbers

The checks below are evaluated on the whole table, so they are written with what is fast to
evaluate.
-/

/-- The set of the numbers, by its bits. -/
def setOf (ns : List Nat) : Nat := ns.foldr (fun n s => Nat.lor (Nat.shiftLeft 1 n) s) 0

/-- The number is in the set. -/
def isIn (n s : Nat) : Bool := Nat.beq (Nat.land (Nat.shiftRight s n) 1) 1

/-- All numbers in one set are in the other. -/
def isWithin (s t : Nat) : Bool := Nat.beq (Nat.land s t) s

theorem isIn_eq_testBit (n s : Nat) : isIn n s = s.testBit n := by
  have hbit : Nat.land (Nat.shiftRight s n) 1 = s / 2 ^ n % 2 :=
    (Nat.and_one_is_mod _).trans (congrArg (· % 2) (Nat.shiftRight_eq_div_pow s n))
  rw [isIn, hbit, Nat.testBit_eq_decide_div_mod_eq, Bool.eq_iff_iff, Nat.beq_eq, decide_eq_true_eq]

theorem isIn_lor (n s t : Nat) : isIn n (Nat.lor s t) = (isIn n s || isIn n t) := by
  simp only [isIn_eq_testBit]
  exact Nat.testBit_or s t n

theorem isIn_zero (n : Nat) : isIn n 0 = false := by
  rw [isIn_eq_testBit, Nat.zero_testBit]

theorem isIn_setOf {n : Nat} {ns : List Nat} : isIn n (setOf ns) = true ↔ n ∈ ns := by
  induction ns with
  | nil => simp [setOf, isIn_zero]
  | cons m rest ih =>
    have hm : isIn n (Nat.shiftLeft 1 m) = decide (m = n) := by
      rw [isIn_eq_testBit]
      exact (congrArg (Nat.testBit · n) (Nat.one_shiftLeft m)).trans Nat.testBit_two_pow
    rw [setOf, List.foldr_cons, isIn_lor, hm, Bool.or_eq_true, decide_eq_true_eq, List.mem_cons,
      eq_comm]
    exact or_congr_right ih

theorem isIn_of_isWithin {n s t : Nat} (h : isWithin s t = true) (hn : s.testBit n = true) :
    isIn n t = true := by
  have hand : s &&& t = s := Nat.eq_of_beq_eq_true h
  rw [← hand, Nat.testBit_and, Bool.and_eq_true] at hn
  rw [isIn_eq_testBit]
  exact hn.2

/-- The property holds of the lowest `n` pairs in a code. -/
def allPairs (P : Nat → Nat → Bool) (n : Nat) : Nat → Bool :=
  n.rec (fun _ => true) fun _ rest code =>
    bif Nat.beq code 0 then true
    else (P (Nat.mod code 4096) (Nat.mod (Nat.div code 4096) 4096)).and
      (rest (Nat.div code 16777216))

theorem allPairs_iff {P : Nat → Nat → Bool} {n code : Nat} :
    allPairs P n code = true ↔ ∀ x ∈ readPairs n code, P x.1 x.2 = true := by
  induction n generalizing code with
  | zero => exact ⟨fun _ x hx => absurd hx List.not_mem_nil, fun _ => rfl⟩
  | succ n ih =>
    by_cases hcode : code = 0
    · simp [allPairs, readPairs, hcode]
    · have hstep : allPairs P (n + 1) code =
          (P (code % 4096) (code / 4096 % 4096) && allPairs P n (code / 16777216)) := by
        have hbeq : Nat.beq code 0 = false := Bool.eq_false_iff.2 (mt Nat.eq_of_beq_eq_true hcode)
        change (bif Nat.beq code 0 then true else _) = _
        rw [hbeq]
        rfl
      rw [hstep, Bool.and_eq_true, ih, readPairs, if_neg hcode, List.forall_mem_cons]

/-! ## What is watched -/

/-- A set of states: bit `n` stands for state `n`. -/
abbrev StateSet := Nat

/-- The states that are watched at a depth: the symbol this far below what is right below them is
plain, on every way that leads there. The sets are those that are reached
from the rules with places of names, by following the automaton backwards. -/
def watched : Nat → StateSet
  | 0 => setOf [
      85, 87, 94, 268, 312, 330, 407, 420, 455, 457, 518, 529, 536, 540, 545, 550, 551, 552, 619,
      620, 626, 630, 681, 684, 685, 686, 688, 692, 693, 694, 696, 700, 701, 702, 759, 760, 762, 791,
      792, 793, 799, 800, 801, 1032, 1034, 1529, 1559, 1560, 1561, 1562, 1563, 1564, 1574, 1575,
      1576, 1577, 1578, 1579, 1580, 1581, 1582, 1583, 1584, 1585, 1592, 1593, 1594, 1595, 1596, 1597]
  | 1 => setOf [
      302, 303, 514, 553, 567, 620, 628, 680, 682, 683, 687, 695, 703, 704, 705, 759, 760, 761, 763,
      784, 786, 787, 788, 790, 794, 795, 796, 798, 802, 803, 804, 845, 856, 857, 858, 863, 864, 865,
      1261, 1291, 1292, 1304, 1305, 1306, 1307, 1308, 1309, 1310, 1316, 1317, 1318, 1319, 1320,
      1321, 1322, 1323, 1324, 1325, 1326, 1327, 1332, 1333, 1334, 1335, 1336, 1337]
  | 2 => setOf [
      531, 532, 533, 534, 677, 706, 760, 783, 785, 789, 797, 805, 806, 807, 851, 852, 853, 854, 855,
      859, 860, 861, 862, 866, 867, 868, 900, 901, 902, 903, 904, 905]
  | _ => 0

/-- The goto codes that only states have that are watched at the depth. -/
def watchedCodes : Nat → Nat
  | 0 => setOf [
      57, 145, 161, 193, 225, 227, 231, 236, 241, 242, 243, 266, 267, 268, 270, 282, 285, 286, 287,
      289, 293, 294, 295, 297, 301, 302, 303, 322, 330, 331, 332, 337, 338, 339, 569, 580, 581, 582,
      583, 584, 585, 592, 593, 594, 595, 596, 597, 598, 599, 600, 601, 602, 603, 607, 608, 609, 610,
      611, 612]
  | 1 => setOf [
      153, 154, 222, 244, 248, 267, 281, 283, 284, 288, 296, 304, 305, 306, 325, 326, 327, 328, 329,
      333, 334, 335, 336, 340, 341, 342, 358, 359, 360, 361, 362, 363]
  | _ => 0

/-- The symbol at the depth below the state is plain, on every way that leads there. -/
def mustBePlain (depth q : Nat) : Bool := isIn q (watched depth)

/-- The state in which the source is complete. -/
def acceptState : Nat := 44

/-- The symbol of a whole program. -/
def programSymbol : Nat := 134

/-- A program has no places of names. -/
theorem withholds_program (role : Option String) : withholds programSymbol role = false := by
  have hshown : shownAs programSymbol = .node "program" := by decide +kernel
  cases role with
  | none => decide +kernel
  | some r => simp [withholds, hshown, SymbolInfo.visible, SymbolInfo.kind, isNamePlace, nameRoles,
      attributeKind]

/-- The states of which something is asked. -/
def askedStates : StateSet :=
  Nat.lor (setOf [acceptState]) (Nat.lor (watched 0) (Nat.lor (watched 1) (watched 2)))

/-- The cells of which something is asked in some state. -/
def askedCells : Nat := setOf [
    1, 19, 36, 37, 184, 193, 211, 213, 246, 247, 248, 287, 289, 290, 300, 330, 331, 346, 347, 348,
    349, 350, 366, 367, 375, 381, 382, 396]

/-- The cell of what is done at a comment. -/
def commentCell : Nat := 1

/-- The symbols that are plain. -/
def plainSymbols : Nat :=
  setOf ((symbols.toList.zipIdx.filter fun x => x.2 == propertyName || x.1.isPlain).map (·.2))

/-- The sets of tokens that are plain. -/
def plainSets : Nat :=
  setOf ((symbolSets.zipIdx.filter fun x => isWithin x.1 plainSymbols).map (·.2))

/-! ## What is checked -/

/-- If something is asked of what leads to the state, then it holds, given whether the symbols that
lead there are plain, and at which depths the state before is watched. -/
def stepKnown (plain : Bool) (before : Nat → Bool) (q : Nat) : Bool :=
  (!mustBePlain 0 q || plain) && (!mustBePlain 1 q || before 0) && (!mustBePlain 2 q || before 1)

/-- The place of the rule has no identifier if it is a place of a name, given whether the symbol
there is plain. -/
def placeKeeps (symbol : Nat) (shape : Shape) (i : Nat) (plain : Bool) : Bool :=
  !withholds symbol (shape.roleAt i) ||
    match shape.infoAt i with
    | some info => info.isPlain
    | none => plain

/-- The rule has no identifiers in places of names, given the depths at which symbols are plain. -/
def ruleKeeps (symbol count : Nat) (shape : Shape) (plain : Nat → Bool) : Bool :=
  Nat.ble tokenCount symbol && Nat.blt symbol errorRun &&
    (List.range count).all fun i => placeKeeps symbol shape i (plain (count - 1 - i))

/-- What is asked of an action at the tokens in state `p` holds. -/
def Action.isKnown (p : Nat) (tokens : TokenSet) : Action → Bool
  | .shift q | .again q =>
    stepKnown (isWithin tokens plainSymbols) (mustBePlain · p) q && q != acceptState
  | .extra => isWithin tokens plainSymbols
  | .reduce symbol count _ shape =>
    ruleKeeps symbol count (shapes.toList.getD shape default) (mustBePlain · p)
  | .accept => p == acceptState && Nat.beq tokens 1
  | .recover => true

/-- Nothing is asked of an action, wherever it is done. -/
def Action.isFree : Action → Bool
  | .shift q | .again q => !isIn q askedStates
  | .extra | .accept => false
  | .reduce symbol count _ shape =>
    ruleKeeps symbol count (shapes.toList.getD shape default) fun _ => false
  | .recover => true

/-- What is asked of a group of tokens in state `p` holds, given the numbers of what to do and of the
set. -/
def groupKnown (p what tokens : Nat) : Bool :=
  bif Nat.blt what 2048 then
    !isIn what askedStates || (Action.shift what).isKnown p (symbolSets.getD tokens 0)
  else
    !isIn (Nat.sub what 2048) askedCells ||
      (Nat.beq what (2048 + commentCell) && isIn tokens plainSets) ||
      (cells.toList.getD (Nat.sub what 2048) []).all (Action.isKnown p (symbolSets.getD tokens 0))

/-- What is asked of the state behind a nonterminal in a goto code holds. -/
def gotoKnown (code symbol q : Nat) : Bool :=
  !isIn q askedStates ||
    stepKnown (isIn symbol plainSymbols) (fun d => isIn code (watchedCodes d)) q &&
      (q != acceptState || symbol == programSymbol)

theorem groups_known : (stateCodes.zipIdx.all fun c =>
    allPairs (groupKnown c.2) maxPairs (Nat.div c.1 65536)) = true := by
  decide +kernel

theorem gotos_known : (gotoCodes.zipIdx.all fun c => allPairs (gotoKnown c.2) maxPairs c.1) = true := by
  decide +kernel

theorem codes_known : (stateCodes.zipIdx.all fun c =>
    [0, 1].all fun d => !isIn (Nat.mod c.1 1024) (watchedCodes d) || mustBePlain d c.2) = true := by
  decide +kernel

theorem cells_known : (cells.toList.zipIdx.all fun c =>
    isIn c.2 askedCells || c.1.all Action.isFree) = true := by
  decide +kernel

/-! ## What follows for the automaton -/

section

variable {p q symbol : Nat}

/-! ### Symbols -/

theorem isPlain_of_isIn (h : isIn symbol plainSymbols = true) : isPlain symbol = true := by
  obtain ⟨⟨info, n⟩, hmem, rfl⟩ := List.mem_map.1 (isIn_setOf.1 h)
  obtain ⟨hzip, hplain⟩ := List.mem_filter.1 hmem
  have hinfo : symbols[n]? = some info := by
    rw [← Array.getElem?_toList]
    exact List.mk_mem_zipIdx_iff_getElem?.1 hzip
  obtain ⟨hsize, -⟩ := Array.getElem?_eq_some_iff.1 hinfo
  have hlt : n < errorSymbol := Nat.lt_trans hsize (by decide +kernel)
  have hshown : shownAs n = info := by
    unfold shownAs symbolInfo
    rw [if_neg (Nat.ne_of_lt hlt), Array.getD_eq_getD_getElem?, hinfo]
    rfl
  rw [isPlain, hshown]
  exact hplain

/-! ### Checks -/

theorem not_asked (h : isIn q askedStates = false) :
    (∀ depth, mustBePlain depth q = false) ∧ q ≠ acceptState := by
  simp only [askedStates, isIn_lor, Bool.or_eq_false_iff] at h
  obtain ⟨haccept, hwatched⟩ := h
  constructor
  · intro depth
    match depth with
    | 0 => exact hwatched.1
    | 1 => exact hwatched.2.1
    | 2 => exact hwatched.2.2
    | n + 3 => exact isIn_zero q
  · rintro rfl
    rw [isIn_setOf.2 (List.mem_singleton_self acceptState)] at haccept
    cases haccept

theorem stepKnown_spec {plain : Bool} {before : Nat → Bool} (h : stepKnown plain before q = true) :
    (mustBePlain 0 q = true → plain = true) ∧
      ∀ depth, mustBePlain (depth + 1) q = true → before depth = true := by
  simp only [stepKnown, Bool.and_eq_true, Bool.or_eq_true, Bool.not_eq_true'] at h
  obtain ⟨⟨hplain, hfirst⟩, hsecond⟩ := h
  refine ⟨fun hq => hplain.resolve_left (by simp [hq]), fun depth hq => ?_⟩
  match depth with
  | 0 => exact hfirst.resolve_left (by simp [hq])
  | 1 => exact hsecond.resolve_left (by simp [hq])
  | n + 2 => exact absurd (isIn_zero q) (Bool.not_eq_false _ ▸ hq)

theorem stepKnown_of_not_asked {plain : Bool} {before : Nat → Bool}
    (h : isIn q askedStates = false) : stepKnown plain before q = true := by
  obtain ⟨hfree, -⟩ := not_asked h
  simp [stepKnown, hfree]

theorem placeKeeps_mono {shape : Shape} {i : Nat} {plain plain' : Bool}
    (h : placeKeeps symbol shape i plain = true) (hle : plain = true → plain' = true) :
    placeKeeps symbol shape i plain' = true := by
  unfold placeKeeps at h ⊢
  rw [Bool.or_eq_true] at h ⊢
  refine h.imp_right fun h => ?_
  split at h
  · exact h
  · exact hle h

theorem ruleKeeps_of_free {count : Nat} {shape : Shape} {plain : Nat → Bool}
    (h : ruleKeeps symbol count shape (fun _ => false) = true) :
    ruleKeeps symbol count shape plain = true := by
  simp only [ruleKeeps, Bool.and_eq_true, List.all_eq_true] at h ⊢
  exact ⟨h.1, fun i hi => placeKeeps_mono (h.2 i hi) (fun hfalse => nomatch hfalse)⟩

theorem Action.isKnown_of_isFree {a : Action} {tokens : Nat} (h : a.isFree = true) :
    a.isKnown p tokens = true := by
  cases a with
  | shift q | again q =>
    have hq : isIn q askedStates = false := by simpa [isFree] using h
    simp [isKnown, stepKnown_of_not_asked hq, (not_asked hq).2]
  | reduce symbol count weight shape =>
    simp only [isFree, isKnown] at h ⊢
    exact ruleKeeps_of_free h
  | extra | accept => cases h
  | recover => rfl

/-- The sets of tokens that are plain, by what they are. -/
theorem isWithin_of_isIn {tokens : Nat} (h : isIn tokens plainSets = true) :
    isWithin (symbolSets.getD tokens 0) plainSymbols = true := by
  obtain ⟨⟨s, n⟩, hmem, rfl⟩ := List.mem_map.1 (isIn_setOf.1 h)
  obtain ⟨hzip, hwithin⟩ := List.mem_filter.1 hmem
  rw [List.getD_eq_getElem?_getD, List.mk_mem_zipIdx_iff_getElem?.1 hzip]
  exact hwithin

theorem isKnown_of_cell {n tokens : Nat} (h : isIn n askedCells = false) :
    ∀ a ∈ cells.toList.getD n [], a.isKnown p tokens = true := by
  intro a ha
  rw [List.getD_eq_getElem?_getD] at ha
  cases hcell : cells.toList[n]? with
  | some actions =>
    rw [hcell] at ha
    have hknown := List.all_eq_true.1 cells_known _ (List.mk_mem_zipIdx_iff_getElem?.2 hcell)
    rw [h, Bool.false_or] at hknown
    exact Action.isKnown_of_isFree (List.all_eq_true.1 hknown a ha)
  | none =>
    rw [hcell] at ha
    cases ha

theorem isKnown_of_group {what tokens : Nat} (h : groupKnown p what tokens = true) :
    ∀ a ∈ readCell what, a.isKnown p (symbolSets.getD tokens 0) = true := by
  intro a ha
  unfold readCell at ha
  unfold groupKnown at h
  split at ha
  · next hshift =>
    have hblt : Nat.blt what 2048 = true := Nat.ble_eq_true_of_le hshift
    rw [hblt, cond_true, Bool.or_eq_true, Bool.not_eq_true'] at h
    rw [List.mem_singleton.1 ha]
    refine h.elim (fun hfree => Action.isKnown_of_isFree ?_) id
    rw [Action.isFree, hfree, Bool.not_false]
  · next hcell =>
    have hblt : Nat.blt what 2048 = false := by
      rw [Bool.eq_false_iff]
      exact fun hlt => hcell (Nat.le_of_ble_eq_true hlt)
    rw [Array.getD_eq_getD_getElem?, ← Array.getElem?_toList, ← List.getD_eq_getElem?_getD] at ha
    simp only [hblt, cond_false, Bool.or_eq_true, Bool.not_eq_true', Bool.and_eq_true] at h
    rcases h with (hfree | ⟨hcomment, hplain⟩) | h
    · exact isKnown_of_cell hfree a ha
    · -- the cell for comments has one action
      rw [Nat.eq_of_beq_eq_true hcomment, Nat.add_sub_cancel_left] at ha
      rw [List.mem_singleton.1 ha]
      exact isWithin_of_isIn hplain
    · exact List.all_eq_true.1 h a ha

/-- What is asked of an action that can be done at a token holds, and the token is in the set for
which it is asked. -/
theorem exists_known {a : Action} (h : a ∈ (state p).actions symbol) :
    ∃ tokens, tokens.testBit symbol = true ∧ a.isKnown p tokens = true := by
  obtain ⟨code, what, tokens, hcode, hpair, hsymbol, ha⟩ := exists_group h
  have hgroups := List.all_eq_true.1 groups_known _ (List.mk_mem_zipIdx_iff_getElem?.2 hcode)
  exact ⟨_, hsymbol, isKnown_of_group (allPairs_iff.1 hgroups _ hpair) a ha⟩

theorem mustBePlain_of_code {code depth : Nat} (hcode : stateCodes[p]? = some code)
    (h : isIn (code % 1024) (watchedCodes depth) = true) : mustBePlain depth p = true := by
  have hall := List.all_eq_true.1 codes_known _ (List.mk_mem_zipIdx_iff_getElem?.2 hcode)
  have hdepth : depth ∈ [0, 1] := by
    match depth with
    | 0 | 1 => decide
    | n + 2 => exact absurd (isIn_zero _) (Bool.not_eq_false _ ▸ h)
  have hknown := List.all_eq_true.1 hall depth hdepth
  have hmod : Nat.mod code 1024 = code % 1024 := rfl
  rw [hmod, h, Bool.not_true, Bool.false_or] at hknown
  exact hknown

theorem stepKnown_mono {plain plain' : Bool} {before before' : Nat → Bool}
    (h : stepKnown plain before q = true) (hplain : plain = true → plain' = true)
    (hbefore : ∀ d, before d = true → before' d = true) : stepKnown plain' before' q = true := by
  simp only [stepKnown, Bool.and_eq_true, Bool.or_eq_true] at h ⊢
  obtain ⟨⟨hzero, hone⟩, htwo⟩ := h
  exact ⟨⟨hzero.imp_right hplain, hone.imp_right (hbefore 0)⟩, htwo.imp_right (hbefore 1)⟩

/-! ### Main statements -/

/-- What is asked of a state that a symbol leads to holds. -/
theorem Leads.known (h : Leads p symbol q) :
    stepKnown (isPlain symbol) (mustBePlain · p) q = true ∧
      (q = acceptState → symbol = programSymbol) := by
  have hplain : ∀ tokens : Nat, tokens.testBit symbol = true →
      isWithin tokens plainSymbols = true → isPlain symbol = true :=
    fun tokens htoken hwithin => isPlain_of_isIn (isIn_of_isWithin hwithin htoken)
  have hshift : ∀ tokens : Nat, tokens.testBit symbol = true →
      (Action.shift q).isKnown p tokens = true →
      stepKnown (isPlain symbol) (mustBePlain · p) q = true ∧
        (q = acceptState → symbol = programSymbol) := by
    intro tokens htoken hknown
    simp only [Action.isKnown, Bool.and_eq_true, bne_iff_ne] at hknown
    refine ⟨stepKnown_mono hknown.1 (hplain tokens htoken) (fun _ hd => hd), fun haccept => ?_⟩
    exact absurd haccept hknown.2
  -- a token is shifted or read again, or a node leads on by the table of gotos
  rcases h with h | h | h
  · obtain ⟨tokens, htoken, hknown⟩ := exists_known h
    exact hshift tokens htoken hknown
  · obtain ⟨tokens, htoken, hknown⟩ := exists_known h
    exact hshift tokens htoken hknown
  · obtain ⟨code, hcode, hpair⟩ := exists_goto h
    have hknown : gotoKnown (code % 1024) symbol q = true := by
      rw [List.getD_eq_getElem?_getD] at hpair
      cases hgoto : gotoCodes[code % 1024]? with
      | some c =>
        rw [hgoto] at hpair
        have hall := List.all_eq_true.1 gotos_known _ (List.mk_mem_zipIdx_iff_getElem?.2 hgoto)
        exact allPairs_iff.1 hall _ hpair
      | none =>
        rw [hgoto] at hpair
        cases hpair
    simp only [gotoKnown, Bool.or_eq_true, Bool.and_eq_true, Bool.not_eq_true', bne_iff_ne,
      beq_iff_eq] at hknown
    rcases hknown with hfree | ⟨hstep, haccept⟩
    · exact ⟨stepKnown_of_not_asked hfree, fun heq => absurd heq (not_asked hfree).2⟩
    · refine ⟨stepKnown_mono hstep isPlain_of_isIn (fun _ => mustBePlain_of_code hcode), fun heq => ?_⟩
      exact haccept.resolve_left (not_not_intro heq)

theorem Leads.isPlain (h : Leads p symbol q) (hq : mustBePlain 0 q = true) :
    isPlain symbol = true :=
  (stepKnown_spec h.known.1).1 hq

/-- What is watched below a state is watched below the state before it. -/
theorem Leads.mustBePlain {depth : Nat} (h : Leads p symbol q)
    (hq : mustBePlain (depth + 1) q = true) : mustBePlain depth p = true :=
  (stepKnown_spec h.known.1).2 depth hq

/-- Only a whole program leads to the end. -/
theorem Leads.eq_program (h : Leads p symbol acceptState) : symbol = programSymbol :=
  h.known.2 rfl

/-- What belongs to no rule is plain. -/
theorem isPlain_of_extra (h : .extra ∈ (state p).actions symbol) : isPlain symbol = true := by
  obtain ⟨tokens, htoken, hknown⟩ := exists_known h
  exact isPlain_of_isIn (isIn_of_isWithin hknown htoken)

/-- The source is complete in one state only, at its end. -/
theorem accept_spec (h : .accept ∈ (state p).actions symbol) :
    p = acceptState ∧ symbol = endSymbol := by
  obtain ⟨tokens, htoken, hknown⟩ := exists_known h
  rw [Action.isKnown, Bool.and_eq_true, beq_iff_eq] at hknown
  rw [Nat.eq_of_beq_eq_true hknown.2] at htoken
  exact ⟨hknown.1, Nat.testBit_one_eq_true_iff_self_eq_zero.1 htoken⟩

/-- A rule that is applied in a state has no identifier in a place of a name: the node there shows as
another one, or the symbol there is plain. -/
theorem rule_withholds {rule count shape token i : Nat} {weight : Int}
    (h : .reduce rule count weight shape ∈ (state p).actions token) (hi : i < count)
    (hplace : withholds rule ((shapeAt shape).roleAt i) = true) :
    (∀ info, (shapeAt shape).infoAt i = some info → info.isPlain = true) ∧
      ((shapeAt shape).infoAt i = none → Grammar.mustBePlain (count - 1 - i) p = true) := by
  obtain ⟨tokens, -, hknown⟩ := exists_known h
  rw [Action.isKnown, ← shapeAt_eq, ruleKeeps, Bool.and_eq_true] at hknown
  have hkeeps := List.all_eq_true.1 hknown.2 i (List.mem_range.2 hi)
  rw [placeKeeps, hplace, Bool.not_true, Bool.false_or] at hkeeps
  constructor
  · intro info hinfo
    rw [hinfo] at hkeeps
    exact hkeeps
  · intro hinfo
    rw [hinfo] at hkeeps
    exact hkeeps

theorem rule_bounds {rule count shape token : Nat} {weight : Int}
    (h : .reduce rule count weight shape ∈ (state p).actions token) :
    tokenCount ≤ rule ∧ rule < errorRun := by
  obtain ⟨tokens, -, hknown⟩ := exists_known h
  simp only [Action.isKnown, ruleKeeps, Bool.and_eq_true] at hknown
  obtain ⟨⟨hlower, hupper⟩, -⟩ := hknown
  exact ⟨Nat.le_of_ble_eq_true hlower, Nat.le_of_ble_eq_true hupper⟩

end

end ScriptDeps.Grammar

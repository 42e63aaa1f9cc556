import Mathlib.Data.List.Forall2
import ScriptDeps.Proofs.Require.Order

namespace ScriptDeps.Require

open Syntax (Node TextError)
open Text (bytesBetween lit)

/-! # Calls with other comments

Comments may stand anywhere between the tokens of a call. A comment in the manner of markup counts as
an argument or as a part of parentheses, though, so that no call is static that has one among its
arguments or in the parentheses around its argument. All other comments can be added and taken away:
the same calls are static, with the same specifiers. Main statements:

* `Recommented`: two trees that differ in their comments;
* `staticAt_iff`: which calls are static, in terms of the tree without its comments;
* `staticBesides_iff`: that tree decides alike whatever comments there are;
* `comments_keep_calls`: the calls of two such trees.
-/

/-! ## Trees without comments -/

/-- The kinds of comments. -/
def commentKinds : List String := ["comment", "html_comment"]

/-- The node is a comment: it plays no role, and nothing stands in it. -/
def isComment (n : Node) : Bool :=
  commentKinds.contains n.kind && n.role.isNone && n.children.isEmpty

/-- The children that are no comments. -/
def uncommented (n : Node) : List Node := n.children.filter fun c => !isComment c

/-- The node is an identifier or a literal. -/
def isWord (n : Node) : Bool := n.kind == "identifier" || isLiteral n

mutual

/-- The trees are the same but for their comments and their bounds, and their identifiers and
literals are spelled alike. -/
def alikeBesides (source source' : ByteArray) : Node → Node → Bool
  | ⟨kind, named, start, stop, missing, faulty, role, children⟩, n' =>
    let n : Node := ⟨kind, named, start, stop, missing, faulty, role, children⟩
    n'.kind == kind && n'.named == named && n'.role == role &&
      (!isWord n || bytesBetween source' n'.start n'.stop == bytesBetween source start stop) &&
      allAlikeBesides source source' children (uncommented n')
termination_by structural n => n

/-- The siblings are, the second ones having no comments between them. -/
def allAlikeBesides (source source' : ByteArray) : List Node → List Node → Bool
  | [], ns' => ns'.isEmpty
  | n :: rest, ns' =>
    if isComment n then allAlikeBesides source source' rest ns'
    else match ns' with
      | [] => false
      | n' :: rest' => alikeBesides source source' n n' && allAlikeBesides source source' rest rest'
termination_by structural ns => ns

end

/-- The second tree is the first one with other comments. -/
def Recommented (source source' : ByteArray) (n n' : Node) : Prop :=
  alikeBesides source source' n n' = true

instance (source source' : ByteArray) (n n' : Node) : Decidable (Recommented source source' n n') :=
  inferInstanceAs (Decidable (_ = true))

section

variable {source source' : ByteArray} {n n' : Node}

theorem allAlikeBesides_iff {ns ns' : List Node} :
    allAlikeBesides source source' ns ns' = true ↔
      List.Forall₂ (Recommented source source') (ns.filter fun c => !isComment c) ns' := by
  induction ns generalizing ns' with
  | nil => simp [allAlikeBesides]
  | cons n rest ih =>
    rw [List.filter_cons]
    by_cases hcomment : isComment n = true
    · cases ns' <;> simp [allAlikeBesides, hcomment, ih]
    · cases ns' <;> simp [allAlikeBesides, hcomment, ih, Recommented]

/-- Besides comments, trees are compared node by node. -/
theorem recommented_iff : Recommented source source' n n' ↔
    n'.kind = n.kind ∧ n'.named = n.named ∧ n'.role = n.role ∧
      (isWord n = true → bytesBetween source' n'.start n'.stop = bytesBetween source n.start n.stop) ∧
      List.Forall₂ (Recommented source source') (uncommented n) (uncommented n') := by
  cases n
  simp only [Recommented, alikeBesides, Bool.and_eq_true, beq_iff_eq, allAlikeBesides_iff,
    Bool.or_eq_true, Bool.not_eq_true', uncommented, and_assoc, ← Bool.not_eq_true,
    imp_iff_not_or]

theorem Recommented.kind (h : Recommented source source' n n') : n'.kind = n.kind :=
  (recommented_iff.1 h).1

theorem Recommented.named (h : Recommented source source' n n') : n'.named = n.named :=
  (recommented_iff.1 h).2.1

theorem Recommented.role (h : Recommented source source' n n') : n'.role = n.role :=
  (recommented_iff.1 h).2.2.1

theorem Recommented.bytes (h : Recommented source source' n n') (hword : isWord n = true) :
    bytesBetween source' n'.start n'.stop = bytesBetween source n.start n.stop :=
  (recommented_iff.1 h).2.2.2.1 hword

theorem Recommented.among (h : Recommented source source' n n') :
    List.Forall₂ (Recommented source source') (uncommented n) (uncommented n') :=
  (recommented_iff.1 h).2.2.2.2

/-- The comments of either tree may be the other ones. -/
theorem Recommented.symm (h : Recommented source source' n n') : Recommented source' source n' n := by
  induction n using Node.induct generalizing n' with
  | step n ih =>
    obtain ⟨hkind, hnamed, hrole, hbytes, hchildren⟩ := recommented_iff.1 h
    have hword : isWord n' = isWord n := by rw [isWord, isWord, isLiteral, isLiteral, hkind]
    refine recommented_iff.2 ⟨hkind.symm, hnamed.symm, hrole.symm, fun hw => ?_, ?_⟩
    · exact (hbytes (hword ▸ hw)).symm
    · have hback : List.Forall₂ (fun c c' => Recommented source' source c' c) (uncommented n)
          (uncommented n') := by
        refine (List.forall₂_and_left _ _).2 ⟨fun c hc => (List.mem_filter.1 hc).1, hchildren⟩ |>.imp ?_
        rintro c c' ⟨hc, hcc'⟩
        exact ih c hc hcc'
      exact hback.flip

theorem Recommented.text (h : Recommented source source' n n') (hword : isWord n = true) :
    n'.text source' = n.text source := by
  rw [Node.text, Node.text, h.bytes hword]

theorem exists_find?_of_forall₂ {α β : Type} {R : α → β → Prop} {p : α → Bool} {q : β → Bool}
    {as : List α} {bs : List β} (h : List.Forall₂ R as bs) (hpq : ∀ a b, R a b → q b = p a) {a : α}
    (ha : as.find? p = some a) : ∃ b, bs.find? q = some b ∧ R a b := by
  induction h with
  | nil => cases ha
  | @cons c d as bs hcd _ ih =>
    rw [List.find?_cons] at ha ⊢
    rw [hpq c d hcd]
    cases hc : p c with
    | true =>
      rw [hc] at ha
      cases ha
      exact ⟨d, rfl, hcd⟩
    | false =>
      rw [hc] at ha
      exact ih ha

/-- A comment plays no role. -/
theorem child?_eq_find? (n : Node) (role : String) :
    n.child? role = (uncommented n).find? fun c => c.role == some role := by
  rw [uncommented, List.find?_filter, Node.child?]
  congr 1
  funext c
  refine Bool.eq_iff_iff.2 ?_
  cases hcomment : isComment c with
  | false => simp
  | true =>
    simp only [isComment, Bool.and_eq_true, Option.isNone_iff_eq_none] at hcomment
    simp [hcomment.1.2]

/-- The child with a role is the same besides its comments. -/
theorem Recommented.child? (h : Recommented source source' n n') {role : String} {c : Node}
    (hc : n.child? role = some c) :
    ∃ c', n'.child? role = some c' ∧ Recommented source source' c c' := by
  rw [child?_eq_find?] at hc ⊢
  exact exists_find?_of_forall₂ h.among (fun a a' ha => by rw [ha.role]) hc

/-! ## Calls without comments -/

/-- The parts of a node if comments of all kinds are left out. -/
def bareParts (n : Node) : List Node :=
  n.children.filter fun c => c.named && !commentKinds.contains c.kind

theorem bareParts_eq (n : Node) :
    bareParts n = (uncommented n).filter fun c => c.named && !commentKinds.contains c.kind := by
  rw [uncommented, List.filter_filter, bareParts]
  congr 1
  funext c
  simp only [isComment]
  cases commentKinds.contains c.kind <;> simp

theorem Recommented.parts (h : Recommented source source' n n') :
    List.Forall₂ (Recommented source source') (bareParts n) (bareParts n') := by
  rw [bareParts_eq, bareParts_eq]
  refine List.rel_filter (fun a b hab => ?_) h.among
  simp only [hab.named, hab.kind]

/-- The node calls `require` with this list of arguments. -/
def CallsWith (source : ByteArray) (n list : Node) : Prop :=
  ∃ callee, Calls n callee ∧ callee.text source = .ok (lit "require") ∧
    n.child? "arguments" = some list ∧ list.kind = "arguments"

theorem requires_iff {arguments : List Node} :
    Requires source n arguments ↔ ∃ list, CallsWith source n list ∧ list.parts = arguments := by
  constructor
  · rintro ⟨callee, list, hcalls, hname, hlist, hkind, rfl⟩
    exact ⟨list, ⟨callee, hcalls, hname, hlist, hkind⟩, rfl⟩
  · rintro ⟨list, ⟨callee, hcalls, hname, hlist, hkind⟩, rfl⟩
    exact ⟨callee, list, hcalls, hname, hlist, hkind, rfl⟩

theorem Recommented.callsWith (h : Recommented source source' n n') {list : Node}
    (hlist : CallsWith source n list) :
    ∃ list', CallsWith source' n' list' ∧ Recommented source source' list list' := by
  obtain ⟨callee, ⟨hkind, hcallee, hid⟩, hname, hlist, harguments⟩ := hlist
  obtain ⟨callee', hcallee', hsame⟩ := h.child? hcallee
  obtain ⟨list', hlist', hsamelist⟩ := h.child? hlist
  have hword : isWord callee = true := by rw [isWord, hid]; rfl
  refine ⟨list', ⟨callee', ⟨h.kind.trans hkind, hcallee', hsame.kind.trans hid⟩, ?_, hlist',
    hsamelist.kind.trans harguments⟩, hsamelist⟩
  rw [hsame.text hword, hname]

theorem Recommented.isCall_iff (h : Recommented source source' n n') :
    IsCall source' n' ↔ IsCall source n := by
  have hforward : ∀ {source source' n n'}, Recommented source source' n n' → IsCall source n →
      IsCall source' n' := by
    rintro source source' n n' h ⟨arguments, hrequires⟩
    obtain ⟨list, hlist, -⟩ := requires_iff.1 hrequires
    obtain ⟨list', hlist', -⟩ := h.callsWith hlist
    exact ⟨_, requires_iff.2 ⟨list', hlist', rfl⟩⟩
  exact ⟨hforward h.symm, hforward h⟩

/-- The second node is left of the first when parentheses are taken away, each of them around a
single part besides comments. -/
inductive GroupsBesides : Node → Node → Prop
  | bare {n : Node} : GroupsBesides n n
  | around {n part inner : Node} : n.kind = "parenthesized_expression" → bareParts n = [part] →
      GroupsBesides part inner → GroupsBesides n inner

theorem GroupsBesides.recommented {inner : Node} (hgroups : GroupsBesides n inner)
    (h : Recommented source source' n n') :
    ∃ inner', GroupsBesides n' inner' ∧ Recommented source source' inner inner' := by
  induction hgroups generalizing n' with
  | bare => exact ⟨n', .bare, h⟩
  | @around n part inner hkind hparts _ ih =>
    have hbare := h.parts
    rw [hparts] at hbare
    obtain ⟨part', _, hpart, hnil, hparts'⟩ := List.forall₂_cons_left_iff.1 hbare
    obtain rfl := List.forall₂_nil_left_iff.1 hnil
    obtain ⟨inner', hinner', hsame⟩ := ih hpart
    exact ⟨inner', .around (h.kind.trans hkind) hparts' hinner', hsame⟩

/-- The call is static with this specifier if comments of all kinds are left out. -/
def StaticBesides (source : ByteArray) (n : Node) (spec : Text) : Prop :=
  ∃ list a literal, CallsWith source n list ∧ bareParts list = [a] ∧ GroupsBesides a literal ∧
    IsLiteral literal ∧ literalValue source literal = .ok spec

/-- Other comments do not change what a call is without them. -/
theorem staticBesides_iff (h : Recommented source source' n n') {spec : Text} :
    StaticBesides source' n' spec ↔ StaticBesides source n spec := by
  have hforward : ∀ {source source' n n'}, Recommented source source' n n' →
      StaticBesides source n spec → StaticBesides source' n' spec := by
    rintro source source' n n' h ⟨list, a, literal, hlist, hone, hgroups, hliteral, hspec⟩
    obtain ⟨list', hlist', hsamelist⟩ := h.callsWith hlist
    have hbare := hsamelist.parts
    rw [hone] at hbare
    obtain ⟨a', _, ha, hnil, hone'⟩ := List.forall₂_cons_left_iff.1 hbare
    obtain rfl := List.forall₂_nil_left_iff.1 hnil
    obtain ⟨literal', hgroups', hsame⟩ := hgroups.recommented ha
    have hliteral' : IsLiteral literal' := by
      rw [IsLiteral, hsame.kind]
      exact hliteral
    have hword : isWord literal = true := by
      rw [isWord, isLiteral_iff.2 hliteral, Bool.or_true]
    refine ⟨list', a', literal', hlist', hone', hgroups', hliteral', ?_⟩
    rw [literalValue, hsame.text hword, hsame.kind, ← literalValue, hspec]
  exact ⟨hforward h.symm, hforward h⟩

end

/-! ## Comments in the manner of markup -/

/-- There is a comment in the manner of markup among the children. -/
def HasMarkup (n : Node) : Prop := ∃ c ∈ n.children, c.named = true ∧ c.kind = "html_comment"

instance (n : Node) : Decidable (HasMarkup n) := by
  unfold HasMarkup
  infer_instance

mutual

/-- The parentheses that a node consists of, from the outside: the node itself and parentheses
directly in them. -/
def layers : Node → List Node
  | ⟨kind, named, start, stop, missing, faulty, role, children⟩ =>
    if kind = parenthesized then
      ⟨kind, named, start, stop, missing, faulty, role, children⟩ :: layersAmong children
    else []

/-- The parentheses that the named nodes among siblings consist of. -/
def layersAmong : List Node → List Node
  | [] => []
  | n :: rest => if n.named then layers n ++ layersAmong rest else layersAmong rest

end

theorem layersAmong_eq (ns : List Node) :
    layersAmong ns = (ns.filter (·.named)).flatMap layers := by
  induction ns with
  | nil => rfl
  | cons n rest ih =>
    rw [layersAmong, List.filter_cons, ih]
    cases n.named <;> rfl

theorem layers_eq (n : Node) :
    layers n = if n.kind = parenthesized then n :: n.namedChildren.flatMap layers else [] := by
  cases n
  rw [layers, layersAmong_eq]
  rfl

/-- There is no comment in the manner of markup in a list of arguments or in the parentheses of an
argument. -/
def IsClean (list : Node) : Prop :=
  ¬ HasMarkup list ∧ ∀ a ∈ list.namedChildren, ∀ m ∈ layers a, ¬ HasMarkup m

/-- There is none in the arguments of the call. -/
def IsCleanCall (n : Node) : Prop := ∀ list ∈ n.child? "arguments", IsClean list

instance (list : Node) : Decidable (IsClean list) := by
  unfold IsClean
  infer_instance

instance (n : Node) : Decidable (IsCleanCall n) := by
  unfold IsCleanCall
  infer_instance

section

variable {source : ByteArray} {n literal : Node}

/-- Without markup, the comments that count as no part are all that there are. -/
theorem parts_eq_bareParts (h : ¬ HasMarkup n) : n.parts = bareParts n := by
  refine List.filter_congr fun c hc => ?_
  cases hnamed : c.named with
  | false => simp [Node.isPart, hnamed]
  | true =>
    have hmarkup : c.kind ≠ "html_comment" := fun hkind => h ⟨c, hc, hnamed, hkind⟩
    refine Bool.eq_iff_iff.2 ?_
    simp [Node.isPart, hnamed, commentKinds, hmarkup]

/-- If the only part is no markup, there is no markup. -/
theorem parts_eq_singleton {part : Node} (hpart : part.kind ≠ "html_comment") :
    n.parts = [part] ↔ bareParts n = [part] ∧ ¬ HasMarkup n := by
  constructor
  · intro hparts
    have hclean : ¬ HasMarkup n := by
      rintro ⟨c, hc, hnamed, hkind⟩
      have hmem : c ∈ n.parts := List.mem_filter.2 ⟨hc, by simp [Node.isPart, hnamed, hkind]⟩
      rw [hparts] at hmem
      exact hpart (List.mem_singleton.1 hmem ▸ hkind)
    exact ⟨parts_eq_bareParts hclean ▸ hparts, hclean⟩
  · rintro ⟨hparts, hclean⟩
    rw [parts_eq_bareParts hclean, hparts]

/-- What is left of a node is parentheses or a literal, unless it is the node itself. -/
theorem Groups.kind_ne (h : Groups n literal) (hliteral : IsLiteral literal) :
    n.kind ≠ "html_comment" := by
  cases h with
  | bare =>
    intro hkind
    rcases hliteral with h | h | h | h | h | h <;> simp [hkind] at h
  | around hkind =>
    intro hmarkup
    simp [hkind] at hmarkup

theorem layers_of_parentheses (h : n.kind = "parenthesized_expression") :
    layers n = n :: n.namedChildren.flatMap layers := by
  have hkind : n.kind = parenthesized := h
  rw [layers_eq, if_pos hkind]

theorem layers_of_isLiteral (h : IsLiteral literal) : layers literal = [] := by
  rw [layers_eq, if_neg]
  intro hkind
  rcases h with h | h | h | h | h | h <;> simp [hkind, parenthesized] at h

/-- The named children of a node with one part are that part and comments, which have no layers. -/
theorem layers_of_parts {part a m : Node} (hparts : n.parts = [part]) (ha : a ∈ n.namedChildren)
    (hm : m ∈ layers a) : m ∈ layers part := by
  obtain ⟨hchild, hnamed⟩ := List.mem_filter.1 ha
  by_cases hcomment : a.kind = "comment"
  · rw [layers_eq, if_neg (by rw [hcomment]; decide)] at hm
    exact absurd hm List.not_mem_nil
  · have hmem : a ∈ n.parts := List.mem_filter.2 ⟨hchild, by simp [Node.isPart, hnamed, hcomment]⟩
    rw [hparts] at hmem
    exact List.mem_singleton.1 hmem ▸ hm

theorem mem_namedChildren {part : Node} (hparts : n.parts = [part]) : part ∈ n.namedChildren := by
  have hmem : part ∈ n.parts := hparts ▸ List.mem_cons_self
  obtain ⟨hchild, hpart⟩ := List.mem_filter.1 hmem
  exact List.mem_filter.2 ⟨hchild, (Bool.and_eq_true_iff.1 hpart).1⟩

/-- All parentheses around a literal are taken away unless there is markup in one of them. -/
theorem groups_iff (hliteral : IsLiteral literal) :
    Groups n literal ↔ GroupsBesides n literal ∧ ∀ m ∈ layers n, ¬ HasMarkup m := by
  constructor
  · intro h
    induction h with
    | bare =>
      rw [layers_of_isLiteral hliteral]
      exact ⟨.bare, fun m hm => absurd hm List.not_mem_nil⟩
    | @around n part inner hkind hparts hinner ih =>
      obtain ⟨hgroups, hlayers⟩ := ih hliteral
      obtain ⟨hbare, hclean⟩ := (parts_eq_singleton (hinner.kind_ne hliteral)).1 hparts
      refine ⟨.around hkind hbare hgroups, fun m hm => ?_⟩
      rw [layers_of_parentheses hkind] at hm
      rcases List.mem_cons.1 hm with rfl | hm
      · exact hclean
      · obtain ⟨a, ha, hma⟩ := List.mem_flatMap.1 hm
        exact hlayers m (layers_of_parts hparts ha hma)
  · rintro ⟨h, hlayers⟩
    induction h with
    | bare => exact .bare
    | @around n part inner hkind hbare _ ih =>
      rw [layers_of_parentheses hkind] at hlayers
      have hparts : n.parts = [part] := by
        rw [parts_eq_bareParts (hlayers n List.mem_cons_self), hbare]
      refine .around hkind hparts (ih hliteral fun m hm => ?_)
      refine hlayers m (List.mem_cons_of_mem _ ?_)
      exact List.mem_flatMap.2 ⟨part, mem_namedChildren hparts, hm⟩

/-- A list of arguments is a literal if it is one without comments and has no markup. -/
theorem hasLiteral_iff {list : Node} : HasLiteral list.parts literal ↔
    (∃ a, bareParts list = [a] ∧ GroupsBesides a literal ∧ IsLiteral literal) ∧ IsClean list := by
  constructor
  · rintro ⟨a, hone, hgroups, hliteral⟩
    obtain ⟨hbesides, hlayers⟩ := (groups_iff hliteral).1 hgroups
    obtain ⟨hbare, hclean⟩ := (parts_eq_singleton (hgroups.kind_ne hliteral)).1 hone
    refine ⟨⟨a, hbare, hbesides, hliteral⟩, hclean, fun b hb m hm => ?_⟩
    exact hlayers m (layers_of_parts hone hb hm)
  · rintro ⟨⟨a, hbare, hbesides, hliteral⟩, hclean, hlayers⟩
    have hone : list.parts = [a] := by rw [parts_eq_bareParts hclean, hbare]
    refine ⟨a, hone, (groups_iff hliteral).2 ⟨hbesides, ?_⟩, hliteral⟩
    exact hlayers a (mem_namedChildren hone)

/-- The call is found as a static one with this specifier. -/
def StaticAt (source : ByteArray) (n : Node) (spec : Text) : Prop :=
  callAt source n = .ok [⟨spec, n.start, n.stop, false⟩]

/-- A call is static if it is without comments and there is no markup in its arguments. -/
theorem staticAt_iff {spec : Text} :
    StaticAt source n spec ↔ StaticBesides source n spec ∧ IsCleanCall n := by
  constructor
  · intro h
    have hcall : IsCall source n := by
      by_contra hno
      exact absurd (callAt_of_not_isCall hno h) (List.cons_ne_nil _ _)
    obtain ⟨c, hc, hreports⟩ := reports_of_callAt hcall h
    obtain rfl := List.singleton_inj.1 hc
    cases hreports with
    | static hrequires hliteral hspec =>
      obtain ⟨list, hlist, rfl⟩ := requires_iff.1 hrequires
      obtain ⟨⟨a, hbare, hbesides, hkind⟩, hclean⟩ := hasLiteral_iff.1 hliteral
      refine ⟨⟨list, a, _, hlist, hbare, hbesides, hkind, hspec⟩, fun other hother => ?_⟩
      obtain ⟨-, -, -, hchild, -⟩ := hlist
      rw [hchild] at hother
      cases hother
      exact hclean
  · rintro ⟨⟨list, a, literal, hlist, hbare, hbesides, hkind, hspec⟩, hclean⟩
    have hliteral : HasLiteral list.parts literal := by
      obtain ⟨-, -, -, hchild, -⟩ := hlist
      exact hasLiteral_iff.2 ⟨⟨a, hbare, hbesides, hkind⟩, hclean list hchild⟩
    exact callAt_of_hasLiteral (requires_iff.2 ⟨list, hlist, rfl⟩) hliteral hspec

end

/-! ## All calls -/

/-- What is said of a node tells whether its call is static, and with which specifier. -/
theorem Reports.staticAt_iff {source : ByteArray} {n : Node} {c : Call} (h : Reports source n c)
    {spec : Text} : StaticAt source n spec ↔ c.dynamic = false ∧ c.spec = spec := by
  cases h with
  | @static arguments literal found hrequires hliteral hfound =>
    rw [StaticAt, callAt_of_hasLiteral hrequires hliteral hfound]
    simp
  | @dynamic arguments texts hrequires hno htexts =>
    refine iff_of_false (fun hstatic => ?_) fun hfalse => nomatch hfalse.1
    obtain ⟨c, hc, hreports⟩ := reports_of_callAt ⟨arguments, hrequires⟩ hstatic
    obtain rfl := List.singleton_inj.1 hc
    cases hreports with
    | static hrequires' hliteral =>
      obtain rfl := hrequires.unique hrequires'
      exact hno _ hliteral

section

variable {source source' : ByteArray} {root root' n n' : Node}

/-- What comments do not change about a call. -/
structure CommentsAside (source source' : ByteArray) (n n' : Node) : Prop where
  besides : ∀ spec, StaticBesides source' n' spec ↔ StaticBesides source n spec
  /-- Without markup in the arguments, both calls are static with one specifier, or none is. -/
  alike : IsCleanCall n → IsCleanCall n' → ∀ spec, StaticAt source' n' spec ↔ StaticAt source n spec
  /-- With markup in its arguments, no call is static. -/
  marked : ¬ IsCleanCall n → ∀ spec, ¬ StaticAt source n spec
  marked' : ¬ IsCleanCall n' → ∀ spec, ¬ StaticAt source' n' spec

theorem Recommented.commentsAside (h : Recommented source source' n n') :
    CommentsAside source source' n n' where
  besides := fun _ => staticBesides_iff h
  alike := by
    intro hclean hclean' spec
    rw [staticAt_iff, staticAt_iff, staticBesides_iff h, and_iff_left hclean, and_iff_left hclean']
  marked := fun hmarked _ hstatic => hmarked (staticAt_iff.1 hstatic).2
  marked' := fun hmarked _ hstatic => hmarked (staticAt_iff.1 hstatic).2

/-- A comment has no calls in it. -/
theorem calls_of_isComment {up : List Node} (h : isComment n = true) :
    (Node.postorder up n).filter (fun p => IsCall source p.2) = [] := by
  simp only [isComment, Bool.and_eq_true, List.isEmpty_iff] at h
  obtain ⟨⟨hkind, -⟩, hleaf⟩ := h
  have hcall : ¬ IsCall source n := by
    rintro ⟨arguments, callee, list, ⟨hcallkind, -⟩, -⟩
    rw [hcallkind] at hkind
    revert hkind
    decide
  rw [Node.postorder_eq, hleaf, List.flatMap_nil, List.nil_append,
    List.filter_cons_of_neg (by simpa using hcall), List.filter_nil]

/-- The places of the calls in the subtree of a node that stands below `up`. -/
def callPlacesBelow (source : ByteArray) (up : List Node) (n : Node) : List (List Node × Node) :=
  (Node.postorder up n).filter fun p => IsCall source p.2

theorem callPlacesBelow_eq (up : List Node) (n : Node) : callPlacesBelow source up n =
    (uncommented n).flatMap (callPlacesBelow source (n :: up)) ++
      [(up, n)].filter fun p => IsCall source p.2 := by
  have hchildren : ∀ ns : List Node, (ns.flatMap (Node.postorder (n :: up))).filter
        (fun p => IsCall source p.2) =
      (ns.filter fun c => !isComment c).flatMap (callPlacesBelow source (n :: up)) := by
    intro ns
    induction ns with
    | nil => rfl
    | cons c rest ih =>
      rw [List.flatMap_cons, List.filter_append, ih, List.filter_cons]
      cases hcomment : isComment c with
      | true =>
        have hnone : (Node.postorder (n :: up) c).filter (fun p => IsCall source p.2) = [] :=
          calls_of_isComment hcomment
        rw [hnone]
        rfl
      | false => rfl
  rw [callPlacesBelow, Node.postorder_eq, List.filter_append, hchildren, uncommented]

/-- The calls of two trees that differ in their comments correspond to each other. -/
theorem Recommented.callPlacesBelow (h : Recommented source source' n n') (up up' : List Node) :
    List.Forall₂ (fun p p' => Recommented source source' p.2 p'.2) (callPlacesBelow source up n)
      (callPlacesBelow source' up' n') := by
  induction n using Node.induct generalizing n' up up' with
  | step n ih =>
    rw [callPlacesBelow_eq, callPlacesBelow_eq]
    refine List.rel_append ?_ ?_
    · have hchildren : List.Forall₂ (fun c c' => c ∈ n.children ∧ Recommented source source' c c')
          (uncommented n) (uncommented n') :=
        (List.forall₂_and_left _ _).2 ⟨fun c hc => (List.mem_filter.1 hc).1, h.among⟩
      refine List.rel_flatMap hchildren fun c c' hc => ?_
      exact ih c hc.1 hc.2 (n :: up) (n' :: up')
    · have hcall : IsCall source' n' ↔ IsCall source n := h.isCall_iff
      by_cases hn : IsCall source n
      · simpa [hn, hcall] using h
      · simp [hn, hcall]

/-- Both calls are static, with one specifier, or neither is. -/
structure Call.Alike (c c' : Call) : Prop where
  dynamic : c'.dynamic = c.dynamic
  spec : c.dynamic = false → c'.spec = c.spec

/-- The calls of a tree with other comments correspond to each other, whether or not there is markup
in their arguments. If there is none, the same ones are static, with the same specifiers. -/
theorem comments_keep_calls (h : Recommented source source' root root') :
    List.Forall₂ (fun p p' => CommentsAside source source' p.2 p'.2) (callPlaces source root)
      (callPlaces source' root') ∧
    ∀ cs cs', calls source root = .ok cs → calls source' root' = .ok cs' →
      (∀ p ∈ callPlaces source root, IsCleanCall p.2) →
      (∀ p ∈ callPlaces source' root', IsCleanCall p.2) →
      List.Forall₂ Call.Alike cs cs' := by
  have hplaces := h.callPlacesBelow [] []
  refine ⟨hplaces.imp fun _ _ hp => hp.commentsAside, ?_⟩
  intro cs cs' hcs hcs' hclean hclean'
  -- both rows of calls belong to the places in the second tree
  have hfrom : List.Forall₂ (fun (p' : List Node × Node) c => ∃ n, IsCleanCall n ∧
      Recommented source source' n p'.2 ∧ Reports source n c) (callPlaces source' root') cs := by
    refine forall₂_of_common hplaces (reports_of_calls hcs) ?_
    intro p hp p' c hpp' hc
    exact ⟨p.2, hclean p hp, hpp', hc⟩
  refine forall₂_of_common hfrom (reports_of_calls hcs') ?_
  rintro p' hp' c c' ⟨n, hcleann, hnp', hc⟩ hc'
  have hstatic := hnp'.commentsAside.alike hcleann (hclean' p' hp')
  simp only [hc.staticAt_iff, hc'.staticAt_iff] at hstatic
  cases hdynamic : c.dynamic with
  | false =>
    obtain ⟨hdynamic', hspec⟩ := (hstatic c.spec).2 ⟨hdynamic, rfl⟩
    exact ⟨hdynamic'.trans hdynamic.symm, fun _ => hspec⟩
  | true =>
    cases hdynamic' : c'.dynamic with
    | false =>
      have hfalse := ((hstatic c'.spec).1 ⟨hdynamic', rfl⟩).1
      rw [hdynamic] at hfalse
      cases hfalse
    | true =>
      refine ⟨hdynamic'.trans hdynamic.symm, fun hfalse => ?_⟩
      rw [hdynamic] at hfalse
      cases hfalse

end

/-- The bytes of a script with a call in which comments of all kinds stand. -/
def remarked : ByteArray :=
  Text.toBytes (lit "<!-- x\nrequire/* ( */(// '\n(/* b */'a'/**/)/* ) */) // ;\n--> y").encode

/-- The bytes of the script without the comments. -/
def unremarked : ByteArray := Text.toBytes (lit "require(('a'))").encode

/-- The call is static with and without the comments. -/
theorem remarked_calls_alike : Recommented unremarked remarked (Script.ofSource unremarked).root
      (Script.ofSource remarked).root ∧
    List.Forall₂ Call.Alike [⟨lit "a", 0, 14, false⟩] [⟨lit "a", 7, 51, false⟩] := by
  -- decided at once, so that each source is parsed once
  have hscripts : let root := (Script.ofSource unremarked).root
      let root' := (Script.ofSource remarked).root
      Recommented unremarked remarked root root' ∧
        calls unremarked root = .ok [⟨lit "a", 0, 14, false⟩] ∧
        calls remarked root' = .ok [⟨lit "a", 7, 51, false⟩] ∧
        (∀ p ∈ callPlaces unremarked root, IsCleanCall p.2) ∧
        ∀ p ∈ callPlaces remarked root', IsCleanCall p.2 := by
    decide +kernel
  obtain ⟨hsame, hcalls, hcalls', hclean, hclean'⟩ := hscripts
  exact ⟨hsame, (comments_keep_calls hsame).2 _ _ hcalls hcalls' hclean hclean'⟩

/-- The bytes of a call with a comment in the manner of markup among its arguments. -/
def markedCall : ByteArray := Text.toBytes (lit "require(<!-- x\n'a')").encode

/-- Not all comments keep the calls: one in the manner of markup counts as an argument. -/
theorem not_all_comments_keep_calls : ¬ ∀ (source source' : ByteArray) (s s' : Script)
    (cs cs' : List Call), Script.read source = .ok s → Script.read source' = .ok s' →
    Recommented s.source s'.source s.root s'.root → s.calls = .ok cs → s'.calls = .ok cs' →
    List.Forall₂ Call.Alike cs cs' := by
  intro h
  have hscripts : let s := Script.ofSource (Text.toBytes (lit "require('a')").encode)
      let s' := Script.ofSource markedCall
      s.error? = none ∧ s'.error? = none ∧ Recommented s.source s'.source s.root s'.root ∧
        s.calls = .ok [⟨lit "a", 0, 12, false⟩] ∧
        s'.calls = .ok [⟨lit "<!-- x'a'", 0, 19, true⟩] := by
    decide +kernel
  obtain ⟨hvalid, hvalid', hsame, hcalls, hcalls'⟩ := hscripts
  have hkept := h _ _ _ _ _ _ (Script.read_eq_ok.2 ⟨rfl, hvalid⟩)
    (Script.read_eq_ok.2 ⟨rfl, hvalid'⟩) hsame hcalls hcalls'
  cases (List.forall₂_cons.1 hkept).1.dynamic

end ScriptDeps.Require

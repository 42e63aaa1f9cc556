import ScriptDeps.Proofs.Parse.Parser
import ScriptDeps.Proofs.Syntax.Tokens
import ScriptDeps.Proofs.Text.Kept

namespace ScriptDeps.Syntax

open Text (IsEncodable bytesBetween bytesBetween_append bytesWhere bytesWhere_append bytesWhere_congr
  bytesWhere_eq_nil bytesWhere_text decode encode isBlankAt lit toBytes)

/-! # What the compact text keeps

Where all that stands between the leaves of a tree is blank, the compact text of a node differs from
its source only in comments and blanks: every other byte is there, once and in its place, and atomic
nodes are there as they are. Main statements:

* `bytesWhere_tokens`: besides comments and blanks, a node has the bytes of its tokens;
* `exists_token_around`: an atomic node stands in a token;
* `joined_layout`: what the layout adds to the texts of tokens;
* `compact_keeps`: what the compact text of a node keeps.
-/

namespace Node

/-! ## Leaves and comments at an offset -/

/-- A leaf of the tree stands at the offset. -/
def HasLeafAt (root : Node) (i : Nat) : Prop :=
  ∃ up n, root.Occurs up n ∧ n.children = [] ∧ n.start ≤ i ∧ i < n.stop

/-- A comment of the tree stands at the offset, with no atomic node of the tree around it. -/
def InComment (root : Node) (i : Nat) : Prop :=
  ∃ up n, root.Occurs up n ∧
    n.kind = "comment" ∧ (∀ m ∈ up, m.kind ∉ atomicKinds) ∧ n.start ≤ i ∧ i < n.stop

/-- Where no leaf of the tree stands, its source is blank. -/
def Covered (blank : Nat → Bool) (source : ByteArray) (root : Node) : Prop :=
  ∀ i, root.start ≤ i → i < root.stop → root.HasLeafAt i ∨ isBlankAt blank source i = true

instance (root : Node) (i : Nat) : Decidable (HasLeafAt root i) := by
  unfold HasLeafAt
  infer_instance

instance (root : Node) (i : Nat) : Decidable (InComment root i) := by
  unfold InComment
  infer_instance

instance (blank : Nat → Bool) (source : ByteArray) (root : Node) :
    Decidable (Covered blank source root) :=
  decidable_of_iff (∀ i ∈ List.range' root.start (root.stop - root.start),
      root.HasLeafAt i ∨ isBlankAt blank source i = true) (by
    constructor
    · intro h i hstart hstop
      exact h i (List.mem_range'_1.2 ⟨hstart, by omega⟩)
    · intro h i hi
      obtain ⟨hstart, hstop⟩ := List.mem_range'_1.1 hi
      exact h i hstart (by omega))

section

variable {blank : Nat → Bool} {source : ByteArray} {root n c : Node} {i : Nat}

/-- The byte at the offset is neither in a comment of the tree nor part of a blank. -/
def isContentAt (blank : Nat → Bool) (source : ByteArray) (root : Node) (i : Nat) : Bool :=
  !decide (root.InComment i) && !isBlankAt blank source i

/-- Two children that stand at an offset are the same. -/
theorem Nested.eq_of_offset (h : Nested n) {a b : Node} (ha : a ∈ n.children)
    (hb : b ∈ n.children) (hai : a.start ≤ i ∧ i < a.stop) (hbi : b.start ≤ i ∧ i < b.stop) :
    a = b := by
  have hpairs : n.children.Pairwise fun a b =>
      a.start ≤ i ∧ i < a.stop → b.start ≤ i ∧ i < b.stop → a = b := by
    refine h.apart.imp ?_
    rintro a b hapart ha hb
    omega
  have hflip : n.children.Pairwise (flip fun a b : Node =>
      a.start ≤ i ∧ i < a.stop → b.start ≤ i ∧ i < b.stop → a = b) :=
    hpairs.imp fun hab hb ha => (hab ha hb).symm
  exact hpairs.forall_of_forall_of_flip (fun _ _ _ _ => rfl) hflip ha hb hai hbi

/-- What stands at an offset below a node is below the child that stands there. -/
theorem SpansNest.exists_occurs_child (h : SpansNest n) (hc : c ∈ n.children)
    (hci : c.start ≤ i ∧ i < c.stop) {up : List Node} {m : Node} (hm : n.Occurs up m)
    (hne : up ≠ []) (hmi : m.start ≤ i ∧ i < m.stop) :
    ∃ ws, c.Occurs ws m ∧ up = ws ++ [n] := by
  rcases hm.cases_root with ⟨rfl, -⟩ | ⟨d, hd, ws, hws, hup⟩
  · exact absurd rfl hne
  · have hinside := (h.child hd).inside hws
    obtain rfl : d = c :=
      (h _ _ .root).eq_of_offset hd hc ⟨by omega, by omega⟩ hci
    exact ⟨ws, hws, hup⟩

/-- At the offsets of a child, the leaves of a node are those of the child. -/
theorem SpansNest.hasLeafAt_child (h : SpansNest n) (hc : c ∈ n.children)
    (hci : c.start ≤ i ∧ i < c.stop) (hleaf : n.HasLeafAt i) : c.HasLeafAt i := by
  obtain ⟨up, m, hm, hnone, hmi⟩ := hleaf
  have hne : up ≠ [] := by
    rintro rfl
    cases hm
    rw [hnone] at hc
    exact absurd hc List.not_mem_nil
  obtain ⟨ws, hws, -⟩ := h.exists_occurs_child hc hci hm hne hmi
  exact ⟨ws, m, hws, hnone, hmi⟩

/-- What is covered is covered below a node, too. -/
theorem Covered.below {up : List Node} (h : Covered blank source root) (nest : SpansNest root)
    (hn : root.Occurs up n) : Covered blank source n := by
  -- at the offsets of a child, a leaf of the node can only be one of the child
  induction hn with
  | root => exact h
  | @child up k c hk hc ih =>
    intro i hstart hstop
    have hnested := nest.below hk
    have hinside := (hnested _ _ .root).inside c hc
    refine (ih i (by omega) (by omega)).imp_left fun hleaf => ?_
    exact hnested.hasLeafAt_child hc ⟨hstart, hstop⟩ hleaf

/-- Between the children of a node, there are only blanks. -/
theorem Covered.blank_between (h : Covered blank source n) (nest : SpansNest n)
    (hchildren : n.children ≠ []) (hi : n.start ≤ i ∧ i < n.stop)
    (hnone : ∀ c ∈ n.children, ¬ (c.start ≤ i ∧ i < c.stop)) :
    isBlankAt blank source i = true := by
  refine (h i hi.1 hi.2).resolve_left ?_
  rintro ⟨up, m, hm, hleaf, hmi⟩
  rcases hm.cases_root with ⟨-, rfl⟩ | ⟨c, hc, ws, hws, -⟩
  · exact hchildren hleaf
  · have hinside := (nest.child hc).inside hws
    exact hnone c hc ⟨by omega, by omega⟩

/-! ## Comments and tokens -/

theorem inComment_of_comment (h : n.kind = "comment") (hi : n.start ≤ i ∧ i < n.stop) :
    n.InComment i :=
  ⟨[], n, .root, h, fun _ hm => absurd hm List.not_mem_nil, hi⟩

/-- A token has no comments that count. -/
theorem not_inComment_of_whole (hcomment : n.kind ≠ "comment")
    (h : n.children = [] ∨ n.kind ∈ atomicKinds) : ¬ n.InComment i := by
  rintro ⟨up, _, hm, hkind, hplain, -⟩
  rcases hm.cases_root with ⟨-, rfl⟩ | ⟨c, hc, ws, -, rfl⟩
  · exact hcomment hkind
  · rcases h with hleaf | hatomic
    · rw [hleaf] at hc
      exact absurd hc List.not_mem_nil
    · exact hplain n (by simp) hatomic

/-- At the offsets of a child, the comments of an open node are those of the child. -/
theorem inComment_child (nest : SpansNest n) (hopen : IsOpen n) (hc : c ∈ n.children)
    (hci : c.start ≤ i ∧ i < c.stop) : n.InComment i ↔ c.InComment i := by
  constructor
  · rintro ⟨up, m, hm, hkind, hplain, hmi⟩
    have hne : up ≠ [] := by
      rintro rfl
      cases hm
      exact hopen.1 hkind
    obtain ⟨ws, hws, rfl⟩ := nest.exists_occurs_child hc hci hm hne hmi
    exact ⟨ws, m, hws, hkind, fun k hk => hplain k (List.mem_append_left _ hk), hmi⟩
  · rintro ⟨ws, m, hm, hkind, hplain, hmi⟩
    refine ⟨ws ++ [n], m, (Occurs.root.child hc).trans hm, hkind, ?_, hmi⟩
    intro k hk
    rcases List.mem_append.1 hk with hk | hk
    · exact hplain k hk
    · rw [List.mem_singleton.1 hk]
      exact hopen.2

/-- The bytes of a node that are kept are those of siblings if nothing is kept between these. -/
theorem bytesWhere_siblings {kept : Nat → Bool} {start stop : Nat} {ns : List Node}
    (hinside : ∀ c ∈ ns, start ≤ c.start ∧ c.stop ≤ stop) (hforward : ∀ c ∈ ns, c.start ≤ c.stop)
    (hapart : ns.Pairwise fun a b => a.stop ≤ b.start) (hle : start ≤ stop)
    (hnone : ∀ i, start ≤ i → i < stop → (∀ c ∈ ns, ¬ (c.start ≤ i ∧ i < c.stop)) →
      kept i = false) :
    bytesWhere source kept start stop = ns.flatMap fun c => bytesWhere source kept c.start c.stop := by
  induction ns generalizing start with
  | nil =>
    rw [List.flatMap_nil]
    exact bytesWhere_eq_nil fun i hstart hstop =>
      hnone i hstart hstop fun c hc => absurd hc List.not_mem_nil
  | cons c rest ih =>
    obtain ⟨hstart, hstop⟩ := hinside c List.mem_cons_self
    have hspan := hforward c List.mem_cons_self
    obtain ⟨hfirst, hothers⟩ := List.pairwise_cons.1 hapart
    have hgap : bytesWhere source kept start c.start = [] := by
      refine bytesWhere_eq_nil fun i hi hi' => hnone i hi (by omega) fun d hd => ?_
      rcases List.mem_cons.1 hd with rfl | hd
      · omega
      · have hbehind := hfirst d hd
        omega
    have hrest := ih (fun d hd => ⟨hfirst d hd, (hinside d (List.mem_cons_of_mem c hd)).2⟩)
      (fun d hd => hforward d (List.mem_cons_of_mem c hd)) hothers hstop fun i hi hi' hd =>
        hnone i (by omega) hi' (List.forall_mem_cons.2 ⟨by omega, hd⟩)
    rw [← bytesWhere_append hstart (Nat.le_trans hspan hstop), hgap, List.nil_append,
      ← bytesWhere_append hspan hstop, hrest, List.flatMap_cons]

/-- Besides comments and blanks, a node has the bytes of its tokens, without blanks. -/
theorem bytesWhere_tokens (nest : SpansNest n) (covered : Covered blank source n) :
    bytesWhere source (isContentAt blank source n) n.start n.stop =
      n.tokens.flatMap fun m =>
        bytesWhere source (fun i => !isBlankAt blank source i) m.start m.stop := by
  induction n using induct with
  | step n ih =>
    by_cases hcomment : n.kind = "comment"
    · rw [tokens_of_comment hcomment, List.flatMap_nil]
      refine bytesWhere_eq_nil fun i hstart hstop => ?_
      simp [isContentAt, inComment_of_comment hcomment ⟨hstart, hstop⟩]
    · by_cases hwhole : n.children = [] ∨ n.kind ∈ atomicKinds
      · rw [tokens_of_whole hcomment hwhole, List.flatMap_singleton]
        refine bytesWhere_congr fun i _ _ => ?_
        simp [isContentAt, not_inComment_of_whole hcomment hwhole]
      · rw [not_or] at hwhole
        have hopen : IsOpen n := ⟨hcomment, hwhole.2⟩
        have hnested := nest _ _ .root
        -- only the gaps between the children are left, and these are blank
        rw [tokens_of_open hopen hwhole.1, List.flatMap_assoc,
          bytesWhere_siblings hnested.inside (fun c hc => (nest.child hc _ _ .root).forward)
            hnested.apart hnested.forward]
        · refine List.flatMap_congr fun c hc => ?_
          rw [← ih c hc (nest.child hc) (covered.below nest (.child .root hc))]
          refine bytesWhere_congr fun i hstart hstop => ?_
          rw [isContentAt, isContentAt,
            decide_eq_decide.2 (inComment_child nest hopen hc ⟨hstart, hstop⟩)]
        · intro i hstart hstop hnone
          rw [isContentAt, covered.blank_between nest hwhole.1 ⟨hstart, hstop⟩ hnone, Bool.not_true,
            Bool.and_false]

end

/-! ## Atomic nodes -/

/-- An atomic node with no comment around it stands in a token. -/
theorem exists_token_around {n m : Node} {up : List Node} (hm : n.Occurs up m)
    (hplain : ∀ k ∈ m :: up, k.kind ≠ "comment") (hatomic : ∃ k ∈ m :: up, k.kind ∈ atomicKinds) :
    ∃ far w, w :: far <:+ m :: up ∧ n.Occurs far w ∧ IsToken far w := by
  induction hm with
  | root =>
    obtain ⟨k, hk, hkind⟩ := hatomic
    rw [List.mem_singleton.1 hk] at hkind
    exact ⟨[], n, List.suffix_rfl, .root, hplain n List.mem_cons_self, Or.inr hkind,
      fun k hk => absurd hk List.not_mem_nil⟩
  | @child up k c hk hc ih =>
    have hup : ∀ j ∈ k :: up, j.kind ≠ "comment" := fun j hj =>
      hplain j (List.mem_cons_of_mem c hj)
    -- an atomic node further out takes what is in it along, so the outermost one is the token
    by_cases hfound : ∃ j ∈ k :: up, j.kind ∈ atomicKinds
    · obtain ⟨far, w, hsuffix, hw⟩ := ih hup hfound
      exact ⟨far, w, hsuffix.trans (List.suffix_cons _ _), hw⟩
    · have hopen : ∀ j ∈ k :: up, IsOpen j := fun j hj =>
        ⟨hup j hj, fun hkind => hfound ⟨j, hj, hkind⟩⟩
      obtain ⟨j, hj, hkind⟩ := hatomic
      obtain rfl : j = c := by
        rcases List.mem_cons.1 hj with rfl | hj
        · rfl
        · exact absurd ⟨j, hj, hkind⟩ hfound
      exact ⟨k :: up, j, List.suffix_rfl, hk.child hc, hplain j List.mem_cons_self, Or.inr hkind,
        hopen⟩

end Node

/-! ## What the layout adds -/

/-- The text consists of the texts, one behind the other, with one blank or none between two. -/
inductive Joined : List Text → Text → Prop
  | nil : Joined [] []
  | last (t : Text) : Joined [t] t
  | close {t u v : Text} {ts : List Text} : Joined (u :: ts) v → Joined (t :: u :: ts) (t ++ v)
  | apart {t u v : Text} {ts : List Text} :
      Joined (u :: ts) v → Joined (t :: u :: ts) (t ++ 0x20 :: v)

theorem joined_layoutAfter (a : Written) (ws : List Written) :
    Joined (a.text :: ws.map (·.text)) (a.text ++ layoutAfter a ws) := by
  induction ws generalizing a with
  | nil =>
    rw [layoutAfter, List.append_nil]
    exact .last a.text
  | cons b rest ih =>
    rw [layoutAfter, List.append_assoc]
    cases spaced a b with
    | false => exact .close (ih b)
    | true => exact .apart (ih b)

/-- The layout adds single blanks between the texts of tokens, and nothing else. -/
theorem joined_layout (ws : List Written) : Joined (ws.map (·.text)) (layout ws) := by
  cases ws with
  | nil => exact .nil
  | cons a rest => exact joined_layoutAfter a rest

section

variable {blank : Nat → Bool} {source : ByteArray} {ts : List Text} {out : Text}

theorem Joined.filter (h : Joined ts out) (blank : Nat → Bool) (hblank : blank 0x20 = true) :
    out.filter (fun c => !blank c) = ts.flatMap fun t => t.filter fun c => !blank c := by
  induction h with
  | nil => rfl
  | last t => rw [List.flatMap_singleton]
  | close _ ih =>
    rw [List.filter_append, ih]
    exact List.flatMap_cons.symm
  | apart _ ih =>
    rw [List.filter_append, List.filter_cons_of_neg (by simp [hblank]), ih]
    exact List.flatMap_cons.symm

theorem Joined.isInfix (h : Joined ts out) {t : Text} (ht : t ∈ ts) : t <:+: out := by
  induction h with
  | nil => exact absurd ht List.not_mem_nil
  | last u =>
    obtain rfl := List.mem_singleton.1 ht
    exact List.infix_rfl
  | @close u _ v _ _ ih =>
    rcases List.mem_cons.1 ht with rfl | ht
    · exact (List.prefix_append t v).isInfix
    · exact (ih ht).trans (List.suffix_append u v).isInfix
  | @apart u _ v _ _ ih =>
    rcases List.mem_cons.1 ht with rfl | ht
    · exact (List.prefix_append t _).isInfix
    · exact (ih ht).trans ((List.suffix_cons 0x20 v).trans (List.suffix_append u _)).isInfix

/-- Without blanks, the bytes of nodes are those of their texts that are not empty. -/
theorem bytesWhere_haveTexts {ns : List Node} (h : HaveTexts source ns ts) :
    (ns.flatMap fun m => bytesWhere source (fun i => !isBlankAt blank source i) m.start m.stop) =
      encode ((ts.filter (!·.isEmpty)).flatMap fun t => t.filter fun c => !blank c) := by
  induction h with
  | nil => rfl
  | @cons m t ns ts ht _ ih =>
    have hencodable := Text.isEncodable_of_decode (text_eq_ok.1 ht)
    rw [List.flatMap_cons, bytesWhere_text hencodable (bytes_of_text ht), ih]
    cases t with
    | nil => rfl
    | cons c t => exact (Text.encode_append _ _).symm

/-! ## The result -/

/-- The bytes of a node without its comments. -/
def Node.withoutComments (source : ByteArray) (n : Node) : List Nat :=
  bytesWhere source (fun i => !decide (n.InComment i)) n.start n.stop

/-- The text keeps what the node is made of. -/
structure Keeps (blank : Nat → Bool) (source : ByteArray) (n : Node) (out : Text) : Prop where
  /-- It has the bytes of the node besides comments and blanks, in the same order. -/
  content : encode (out.filter fun c => !blank c) =
    bytesWhere source (n.isContentAt blank source) n.start n.stop
  /-- Atomic nodes that are not in comments are there as they are. -/
  verbatim : ∀ up m, n.Occurs up m → m.kind ∈ atomicKinds → (∀ k ∈ up, k.kind ≠ "comment") →
    bytesBetween source m.start m.stop <:+: encode out ∧ ∀ t, m.text source = .ok t → t <:+: out
  /-- It consists of the texts of the tokens, with one blank or none between two. -/
  joined : ∃ ts, HaveTexts source n.tokenNodes ts ∧ Joined (ts.filter (!·.isEmpty)) out

theorem compact_content {n : Node} (hblank : blank 0x20 = true) (nest : n.SpansNest)
    (covered : n.Covered blank source) (hts : HaveTexts source n.tokenNodes ts)
    (hjoined : Joined (ts.filter (!·.isEmpty)) out) :
    encode (out.filter fun c => !blank c) =
      bytesWhere source (n.isContentAt blank source) n.start n.stop := by
  rw [Node.bytesWhere_tokens nest covered, Node.tokens_eq_tokenNodes, bytesWhere_haveTexts hts,
    hjoined.filter blank hblank]

/-- The bytes of what stands in a token stand in the compact text. -/
theorem infix_of_token {n m w : Node} {up far : List Node} (nest : n.SpansNest)
    (hts : HaveTexts source n.tokenNodes ts) (hjoined : Joined (ts.filter (!·.isEmpty)) out)
    (hm : n.Occurs up m) (hsuffix : w :: far <:+ m :: up) (hw : w ∈ n.tokenNodes) :
    bytesBetween source m.start m.stop <:+: encode out := by
  have hflip : List.Forall₂ (fun t m => m.text source = .ok t) ts n.tokenNodes := hts.flip
  obtain ⟨t, ht, htext⟩ := exists_left_of_mem hflip hw
  have hinside := nest.covers hm hsuffix
  have hforward := (nest.below hm _ _ .root).forward
  have hpart : bytesBetween source m.start m.stop <:+: encode t := by
    rw [← bytes_of_text htext, ← bytesBetween_append hinside.1 (Nat.le_trans hforward hinside.2),
      ← bytesBetween_append hforward hinside.2, ← List.append_assoc]
    exact ⟨_, _, rfl⟩
  cases t with
  | nil => exact hpart.trans List.nil_infix
  | cons c t =>
    have hmem : c :: t ∈ ts.filter (!·.isEmpty) := List.mem_filter.2 ⟨ht, rfl⟩
    obtain ⟨before, behind, rfl⟩ := hjoined.isInfix hmem
    refine hpart.trans ⟨encode before, encode behind, ?_⟩
    rw [Text.encode_append, Text.encode_append]

/-- The compact text keeps what a node is made of. -/
theorem keeps_of_compact {n : Node} (hblank : blank 0x20 = true) (nest : n.SpansNest)
    (covered : n.Covered blank source) (h : n.compact source = .ok out) :
    Keeps blank source n out := by
  rw [Node.compact, Node.tokens_eq_tokenNodes] at h
  obtain ⟨ws, hws, rfl⟩ := map_eq_ok.1 h
  obtain ⟨ts, hts, htexts⟩ := exists_haveTexts hws
  have hjoined : Joined (ts.filter (!·.isEmpty)) (layout ws) := htexts ▸ joined_layout ws
  have hencodable : IsEncodable (layout ws) := isEncodable_of_writtenTokens hws
  refine ⟨compact_content hblank nest covered hts hjoined, ?_, ts, hts, hjoined⟩
  intro up m hm hkind hplain
  have hcomment : m.kind ≠ "comment" := by
    intro hm
    rw [hm] at hkind
    exact absurd hkind (by decide)
  obtain ⟨far, w, hsuffix, hw, htoken⟩ := Node.exists_token_around hm
    (List.forall_mem_cons.2 ⟨hcomment, hplain⟩) ⟨m, List.mem_cons_self, hkind⟩
  have hmem : w ∈ n.tokenNodes := Node.tokens_eq_tokenNodes n ▸ Node.mem_tokens.2 ⟨far, hw, htoken⟩
  have hbytes := infix_of_token nest hts hjoined hm hsuffix hmem
  refine ⟨hbytes, fun t ht => ?_⟩
  rw [bytes_of_text ht] at hbytes
  exact Text.isInfix_of_encode hencodable (Text.isEncodable_of_decode (text_eq_ok.1 ht)) hbytes

/-- Comments of a tree that has its bounds between glyphs do not cut code points. -/
theorem keepsWhole_comments {n : Node} (hwithin : Parse.NodeWithin (Source.Between source) n) :
    Text.KeepsWhole source fun i => !decide (n.InComment i) := by
  intro c j i hstands hj hi
  have hsame : n.InComment i ↔ n.InComment j := by
    constructor
    · rintro ⟨up, m, hm, hkind, hplain, hstart, hstop⟩
      have hcut := hstands.not_cut (hwithin up m hm).1
      exact ⟨up, m, hm, hkind, hplain, by omega, by omega⟩
    · rintro ⟨up, m, hm, hkind, hplain, hstart, hstop⟩
      have hcut := hstands.not_cut (hwithin up m hm).2
      exact ⟨up, m, hm, hkind, hplain, by omega, by omega⟩
  dsimp only
  rw [decide_eq_decide.2 hsame]

/-- Where a node is a text and its bounds lie between glyphs, the compact text and the node without
comments are the same text besides blanks. -/
theorem exists_withoutComments {n : Node} {u : Text} (hu : n.text source = .ok u)
    (hwithin : Parse.NodeWithin (Source.Between source) n) (hencodable : IsEncodable out)
    (hkeeps : Keeps blank source n out) :
    ∃ kept, decode (n.withoutComments source) = .ok kept ∧
      out.filter (fun c => !blank c) = kept.filter fun c => !blank c := by
  obtain ⟨kept, hkept, hbytes, hcontent⟩ := Text.exists_text_of_bytesWhere blank
    (keepsWhole_comments hwithin) (Text.isEncodable_of_decode (text_eq_ok.1 hu)) (bytes_of_text hu)
  refine ⟨kept, ?_, ?_⟩
  · rw [Node.withoutComments, hbytes, Text.decode_encode hkept]
  · refine Text.encode_injective (fun c hc => hencodable c (List.mem_filter.1 hc).1)
      (fun c hc => hkept c (List.mem_filter.1 hc).1) ?_
    exact hkeeps.content.trans hcontent

end

/-- The compact text of a node that is covered by its leaves. There is one unless a token is no
text, it keeps what the node is made of, and in the tree of a source that is a text, every node has
one, which is the text of the node without comments, besides blanks. -/
theorem compact_keeps {blank : Nat → Bool} (hblank : blank 0x20 = true) {source : ByteArray}
    {root : Node} (nest : root.SpansNest) (covered : root.Covered blank source) {up : List Node}
    {n : Node} (hn : root.Occurs up n) :
    ((∃ e, n.compact source = .error e) ↔ ∃ m ∈ n.tokenNodes, ∃ e, m.text source = .error e) ∧
    (∀ out, n.compact source = .ok out → Keeps blank source n out) ∧
    ∀ t : Text, t.IsEncodable → source = toBytes (encode t) → root = Parse.parse source →
      ∃ out kept, n.compact source = .ok out ∧ decode (n.withoutComments source) = .ok kept ∧
        out.filter (fun c => !blank c) = kept.filter fun c => !blank c := by
  have hkeeps : ∀ out, n.compact source = .ok out → Keeps blank source n out := fun out =>
    keeps_of_compact hblank (nest.below hn) (covered.below nest hn)
  have hfails : (∃ e, n.compact source = .error e) ↔
      ∃ m ∈ n.tokenNodes, ∃ e, m.text source = .error e := by
    rw [compact_fails, Node.tokens_eq_tokenNodes]
  refine ⟨hfails, hkeeps, ?_⟩
  rintro t ht rfl rfl
  have htexts : ∀ {up m}, n.Occurs up m → ∃ u, m.text (toBytes (encode t)) = .ok u := fun hm =>
    Parse.exists_text_of_occurs ht (hn.trans hm)
  have hcompact : ∃ out, n.compact (toBytes (encode t)) = .ok out := by
    rw [exists_ok_iff, compact_fails]
    rintro ⟨m, hm, hfails⟩
    obtain ⟨up, hm, -⟩ := Node.mem_tokens.1 hm
    exact exists_ok_iff.1 (htexts hm) hfails
  obtain ⟨out, hout⟩ := hcompact
  obtain ⟨u, hu⟩ := htexts .root
  have hwithin : Parse.NodeWithin (Source.Between (toBytes (encode t))) n := fun _ _ hm =>
    Parse.parse_between _ _ (hn.trans hm)
  obtain ⟨ws, hws, rfl⟩ := map_eq_ok.1 hout
  obtain ⟨kept, hkept, hsame⟩ := exists_withoutComments hu hwithin
    (isEncodable_of_writtenTokens hws) (hkeeps _ hout)
  exact ⟨layout ws, kept, hout, hkept, hsame⟩

/-- A call with a comment before its argument, a template with a comment in it around a string. -/
def remarkedTemplate : ByteArray :=
  toBytes (encode (lit "f( /*a*/`b $\x7b/*c*/ '" ++ [0xE9] ++ lit "'\x7d`)"))

/-- The blank behind the parenthesis and the first comment are gone, and the template is there as it
is, with its comment and the string. -/
theorem keeps_remarkedTemplate :
    Keeps (· == 0x20) remarkedTemplate (Parse.parse remarkedTemplate)
      (lit "f(`b $\x7b/*c*/ '" ++ [0xE9] ++ lit "'\x7d`)") := by
  -- decided at once, so that the source is parsed once
  have htree : let root := Parse.parse remarkedTemplate
      root.SpansNest ∧ root.Covered (· == 0x20) remarkedTemplate ∧ root.compact remarkedTemplate =
        .ok (lit "f(`b $\x7b/*c*/ '" ++ [0xE9] ++ lit "'\x7d`)") := by
    decide +kernel
  obtain ⟨nest, covered, hcompact⟩ := htree
  exact (compact_keeps (by decide) nest covered .root).2.1 _ hcompact

end ScriptDeps.Syntax

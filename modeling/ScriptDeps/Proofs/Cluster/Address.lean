import ScriptDeps.Proofs.Cluster.Fetch
import ScriptDeps.Proofs.Cluster.Percent
import ScriptDeps.Proofs.Text.Parts

namespace ScriptDeps.Cluster

open Text (lit IsEncodable splitOn join splitOn_append splitOn_join join_splitOn)

/-! # Where requests go

A request goes to the container of its configuration: behind the path of the cluster stands one
segment that denotes the name of the container. Two names are no segments, since dots are removed
from a path, and requests for them go elsewhere. Main statements:

* `removeDots_runPath`, `removeDots_oneDot`, `removeDots_twoDots`: what becomes of the path;
* `isSettled_removeDots`: a path that was brought into its form once stays as it is;
* `path_of_sent`: the path of a request that is sent;
* `container_reached`: the path leads to the container, and different names to different paths.
-/

/-! ## Dots -/

/-- The segment is removed from a path. -/
def IsDots (s : Text) : Prop := s = lit "." ∨ s = lit ".."

instance (s : Text) : Decidable (IsDots s) := by
  unfold IsDots
  infer_instance

/-- No segment of the path is removed from it. -/
def HasNoDots (path : Text) : Prop := ∀ s ∈ splitOn 0x2F path, ¬ IsDots s

/-- The segments that are kept of a path when one more is read. -/
def passSegment (kept : List Text) (s : Text) : List Text :=
  if s = lit "." then kept
  else if s = lit ".." then if kept.isEmpty || kept == [[]] then kept else kept.dropLast
  else kept ++ [s]

theorem removeDots_eq (path : Text) :
    removeDots path =
      if (splitOn 0x2F path).any [lit ".", lit ".."].contains then
        join [0x2F] ((splitOn 0x2F path).foldl passSegment [])
      else path := rfl

theorem any_dots_iff {path : Text} :
    (splitOn 0x2F path).any [lit ".", lit ".."].contains = true ↔ ¬ HasNoDots path := by
  simp [HasNoDots, IsDots, or_iff_not_imp_left]

theorem removeDots_of_hasNoDots {path : Text} (h : HasNoDots path) : removeDots path = path := by
  rw [removeDots_eq, if_neg (mt any_dots_iff.1 (not_not_intro h))]

theorem passSegment_of_not_dots {s : Text} (h : ¬ IsDots s) (kept : List Text) :
    passSegment kept s = kept ++ [s] := by
  have hone : s ≠ lit "." := fun hs => h (Or.inl hs)
  have htwo : s ≠ lit ".." := fun hs => h (Or.inr hs)
  rw [passSegment, if_neg hone, if_neg htwo]

theorem foldl_passSegment {ss : List Text} (h : ∀ s ∈ ss, ¬ IsDots s) (kept : List Text) :
    ss.foldl passSegment kept = kept ++ ss := by
  induction ss generalizing kept with
  | nil => rw [List.foldl_nil, List.append_nil]
  | cons s ss ih =>
    have hrest := ih fun t ht => h t (List.mem_cons_of_mem s ht)
    rw [List.foldl_cons, passSegment_of_not_dots (h s List.mem_cons_self), hrest,
      List.append_assoc, List.singleton_append]

/-- What is kept are segments that are no dots. -/
theorem mem_foldl_passSegment {ss kept : List Text} {s : Text}
    (h : s ∈ ss.foldl passSegment kept) : s ∈ kept ∨ s ∈ ss ∧ ¬ IsDots s := by
  induction ss generalizing kept with
  | nil => exact Or.inl h
  | cons t ss ih =>
    -- one segment adds nothing but itself, and dots add nothing
    have hstep : s ∈ passSegment kept t → s ∈ kept ∨ s = t ∧ ¬ IsDots s := by
      intro hs
      by_cases ht : IsDots t
      · left
        unfold passSegment at hs
        split at hs
        · exact hs
        · split at hs
          · split at hs
            · exact hs
            · exact (List.dropLast_sublist kept).subset hs
          · next hone htwo => exact absurd ht (not_or.2 ⟨hone, htwo⟩)
      · rw [passSegment_of_not_dots ht, List.mem_append, List.mem_singleton] at hs
        rcases hs with hs | hs
        · exact Or.inl hs
        · exact Or.inr ⟨hs, hs ▸ ht⟩
    rcases ih h with hs | ⟨hs, hdots⟩
    · rcases hstep hs with hs | ⟨hs, hdots⟩
      · exact Or.inl hs
      · exact Or.inr ⟨hs ▸ List.mem_cons_self, hdots⟩
    · exact Or.inr ⟨List.mem_cons_of_mem t hs, hdots⟩

theorem mem_foldl_of_splitOn {path s : Text}
    (h : s ∈ (splitOn 0x2F path).foldl passSegment []) :
    s ∈ splitOn 0x2F path ∧ ¬ IsDots s := by
  rcases mem_foldl_passSegment h with h | h
  · exact absurd h List.not_mem_nil
  · exact h

/-- After dots were removed, none are left. -/
theorem hasNoDots_removeDots (path : Text) : HasNoDots (removeDots path) := by
  rw [removeDots_eq]
  split
  · by_cases hnil : (splitOn 0x2F path).foldl passSegment [] = []
    · rw [hnil]
      unfold HasNoDots
      decide
    · have hslash : ∀ t ∈ (splitOn 0x2F path).foldl passSegment [], 0x2F ∉ t := by
        intro t ht
        exact Text.not_mem_of_mem_splitOn (mem_foldl_of_splitOn ht).1
      intro s hs
      rw [splitOn_join hnil hslash] at hs
      exact (mem_foldl_of_splitOn hs).2
  · next hdots => exact not_not.1 (mt any_dots_iff.2 hdots)

theorem mem_removeDots {path : Text} {x : Nat} (h : x ∈ removeDots path) :
    x = 0x2F ∨ x ∈ path := by
  rw [removeDots_eq] at h
  split at h
  · rcases Text.mem_join h with h | ⟨s, hs, h⟩
    · exact Or.inl h
    · exact Or.inr (Text.mem_of_mem_splitOn (mem_foldl_of_splitOn hs).1 h)
  · exact Or.inr h

/-! ## Paths in their form -/

/-- The path is in its form: nothing is left to encode or to remove. -/
structure IsSettled (path : Text) : Prop where
  kept : ∀ x ∈ path, isUnreserved x = true ∨ pathKeeps x = true
  noDots : HasNoDots path

theorem IsSettled.eq {path : Text} (h : IsSettled path) :
    percentEncode pathKeeps (removeDots path) = path := by
  rw [removeDots_of_hasNoDots h.noDots, percentEncode_of_kept h.kept]

theorem IsSettled.no_query {path : Text} (h : IsSettled path) : 0x3F ∉ path := by
  have hmark : ¬ (isUnreserved 0x3F = true ∨ pathKeeps 0x3F = true) := by decide
  exact fun hmem => hmark (h.kept _ hmem)

theorem slash_not_mem_percentEncoded (c : Nat) : 0x2F ∉ percentEncoded c := by
  have hdigit : ∀ d, upperDigit d ≠ 0x2F := by
    intro d
    unfold upperDigit
    split <;> omega
  intro hmem
  rcases List.mem_flatMap.1 hmem with ⟨b, -, hb⟩
  simp only [percentByte, List.mem_cons, List.not_mem_nil, or_false] at hb
  rcases hb with hb | hb | hb
  · omega
  · exact hdigit _ hb.symm
  · exact hdigit _ hb.symm

/-- Encoding leaves the slashes of a path alone. -/
theorem splitOn_percentEncode (path : Text) :
    splitOn 0x2F (percentEncode pathKeeps path) =
      (splitOn 0x2F path).map (percentEncode pathKeeps) := by
  refine Text.splitOn_flatMap (by decide) (fun x hx => ?_) path
  split
  · exact fun hmem => hx (List.mem_singleton.1 hmem).symm
  · exact slash_not_mem_percentEncoded x

/-- What is brought into its form is in its form. -/
theorem isSettled_removeDots {path : Text} (h : IsEncodable (removeDots path)) :
    IsSettled (percentEncode pathKeeps (removeDots path)) where
  kept := by
    intro x hx
    rcases kept_percentEncode h hx with hun | hkeeps | hsign
    · exact Or.inl hun
    · exact Or.inr hkeeps
    · rw [hsign]
      exact Or.inr (by decide)
  noDots := by
    intro s hs hdots
    rw [splitOn_percentEncode] at hs
    rcases List.mem_map.1 hs with ⟨t, ht, hts⟩
    have hsign : 0x25 ∉ percentEncode pathKeeps t := by
      rw [hts]
      rcases hdots with hs | hs
      · rw [hs]
        decide
      · rw [hs]
        decide
    have heq : t = s := by rw [← hts, percentEncode_of_no_sign hsign]
    exact hasNoDots_removeDots path t ht (heq ▸ hdots)

/-! ## The parts of an address -/

theorem encodePart_eq_ok {keeps : Nat → Bool} {t s : Text} :
    encodePart keeps t = .ok s ↔
      (∀ x ∈ t, Text.isSurrogate x = false) ∧ s = percentEncode keeps t := by
  unfold encodePart
  cases hfind : t.find? Text.isSurrogate with
  | some x =>
    have hx := List.find?_some hfind
    have hmem := List.mem_of_find?_eq_some hfind
    constructor
    · intro h
      cases h
    · intro h
      rw [h.1 x hmem] at hx
      cases hx
  | none =>
    have hnone : ∀ x ∈ t, Text.isSurrogate x = false := by
      intro x hx
      exact Bool.eq_false_iff.2 (List.find?_eq_none.1 hfind x hx)
    constructor
    · intro h
      cases h
      exact ⟨hnone, rfl⟩
    · intro h
      rw [h.2]

theorem isScalar_iff {x : Nat} :
    Text.IsScalar x ↔ Text.isSurrogate x = false ∧ x ≤ 0x10FFFF := by
  simp only [Text.IsScalar, Text.isSurrogate, Bool.and_eq_false_iff, decide_eq_false_iff_not]
  omega

/-- The form of an address that has a scheme. -/
theorem ofParts_eq_ok {p : Parts} {u : Url} (h : Url.ofParts p = .ok u) :
    u.scheme = p.scheme.map lowered ∧
    (p.scheme ≠ [] → u.path = percentEncode pathKeeps (removeDots p.path) ∧
      ∀ x ∈ removeDots p.path, Text.isSurrogate x = false) ∧
    (p.query = none → u.query = none) := by
  unfold Url.ofParts at h
  rcases andThen_ok_iff.1 h with ⟨userInfo, -, h⟩
  rcases andThen_ok_iff.1 h with ⟨host, -, h⟩
  rcases andThen_ok_iff.1 h with ⟨port, -, h⟩
  rcases andThen_ok_iff.1 h with ⟨_, -, h⟩
  rcases andThen_ok_iff.1 h with ⟨path, hpath, h⟩
  rcases andThen_ok_iff.1 h with ⟨query, hquery, h⟩
  rcases andThen_ok_iff.1 h with ⟨fragment, -, h⟩
  cases h
  refine ⟨rfl, fun hscheme => ?_, fun hnone => ?_⟩
  · have hhas : (!p.scheme.isEmpty) = true := by simpa using hscheme
    rw [hhas, Bool.true_or, if_pos rfl] at hpath
    rcases encodePart_eq_ok.1 hpath with ⟨hsurrogates, hpath⟩
    exact ⟨hpath, hsurrogates⟩
  · rw [hnone] at hquery
    cases hquery
    rfl

theorem cut_of_not_mem {c : Nat} {t : Text} (h : c ∉ t) : cut c t = (t, none) := by
  have htake : t.takeWhile (· != c) = t := by
    rw [List.takeWhile_eq_self_iff]
    intro x hx
    have hne : x ≠ c := fun heq => h (heq ▸ hx)
    simpa using hne
  unfold cut
  dsimp only
  rw [htake, List.drop_length]

theorem checkLengths_eq_ok {p q : Parts} (h : p.checkLengths = .ok q) : q = p := by
  unfold Parts.checkLengths at h
  dsimp only at h
  split at h
  · cases h
  · cases h
    rfl

/-- The address with another path that is in its form. -/
theorem withTarget_eq_ok {u v : Url} {target : Text} (h : u.withTarget target = .ok v)
    (hscheme : u.scheme ≠ []) (hquery : 0x3F ∉ target) :
    v.scheme ≠ [] ∧ v.query = none ∧ v.path = percentEncode pathKeeps (removeDots target) := by
  unfold Url.withTarget at h
  rw [cut_of_not_mem hquery] at h
  rcases andThen_ok_iff.1 h with ⟨p, hp, h⟩
  have hparts := checkLengths_eq_ok hp
  subst hparts
  rcases ofParts_eq_ok h with ⟨hlowered, hpath, hnone⟩
  refine ⟨?_, hnone rfl, (hpath hscheme).1⟩
  rw [hlowered]
  simpa using hscheme

theorem mem_path_ofText {t : Text} {x : Nat} (h : x ∈ (Parts.ofText t).path) : x ∈ t := by
  have hcut : ∀ (c : Nat) (s : Text), x ∈ (cut c s).1 → x ∈ s := by
    intro c s hx
    unfold cut at hx
    dsimp only at hx
    split at hx <;> exact (List.takeWhile_prefix _).subset hx
  have hauthority : ∀ s : Text, x ∈ (splitAuthority s).2 → x ∈ s := by
    intro s hx
    unfold splitAuthority at hx
    split at hx
    · exact List.mem_cons_of_mem _ (List.mem_cons_of_mem _ (List.mem_of_mem_drop hx))
    · exact hx
  have hscheme : x ∈ (splitScheme t).2 → x ∈ t := by
    intro hx
    unfold splitScheme at hx
    dsimp only at hx
    split at hx
    · next rest hdrop =>
      have hrest : x ∈ 0x3A :: rest := List.mem_cons_of_mem _ hx
      rw [← hdrop] at hrest
      exact List.mem_of_mem_drop hrest
    · exact hx
  exact hscheme (hauthority _ (hcut 0x23 _ (hcut 0x3F _ h)))

/-! ## The address of a cluster -/

/-- The path of an address without the slash at its end. -/
def Url.basePath (u : Url) : Text :=
  if u.path.getLast? = some 0x2F then u.path.dropLast else u.path

/-- The cluster has an address for the web without a query. -/
structure Config.OnWeb (c : Config) (base : Url) : Prop where
  text : ∀ x ∈ c.clusterUrl, x ≤ 0x10FFFF
  address : Url.ofText c.clusterUrl = .ok base
  scheme : base.scheme = lit "http" ∨ base.scheme = lit "https"
  query : base.query = none

section

variable {c : Config} {base : Url}

theorem Config.OnWeb.scheme_ne (h : c.OnWeb base) : base.scheme ≠ [] := by
  rcases h.scheme with hscheme | hscheme
  · rw [hscheme]
    decide
  · rw [hscheme]
    decide

/-- The path of the cluster is in its form. -/
theorem Config.OnWeb.isSettled (h : c.OnWeb base) : IsSettled base.path := by
  have haddress := h.address
  unfold Url.ofText at haddress
  split at haddress
  · cases haddress
  split at haddress
  · cases haddress
  rcases ofParts_eq_ok haddress with ⟨hscheme, hpath, -⟩
  have hne : (Parts.ofText c.clusterUrl).scheme ≠ [] := by
    intro hnil
    rw [hnil] at hscheme
    exact h.scheme_ne hscheme
  rcases hpath hne with ⟨hpath, hsurrogates⟩
  rw [hpath]
  refine isSettled_removeDots fun x hx => ?_
  refine isScalar_iff.2 ⟨hsurrogates x hx, ?_⟩
  rcases mem_removeDots hx with hslash | hmem
  · omega
  · exact h.text x (mem_path_ofText hmem)

theorem isSettled_slash : IsSettled [0x2F] where
  kept x hx := by
    rw [List.mem_singleton.1 hx]
    decide
  noDots := by
    unfold HasNoDots
    decide

theorem IsSettled.slash {path : Text} (h : IsSettled path) : IsSettled (path ++ [0x2F]) where
  kept x hx := (List.mem_append.1 hx).elim (h.kept x) (isSettled_slash.kept x)
  noDots s hs := by
    rw [splitOn_append] at hs
    rcases List.mem_append.1 hs with hs | hs
    · exact h.noDots s hs
    · rw [List.mem_singleton.1 hs]
      decide

/-- Something that ends with a slash is joined to a path. -/
theorem asBase_eq_ok {front : Url} (hscheme : base.scheme ≠ []) (hquery : base.query = none)
    (hpath : IsSettled base.path) (h : base.asBase = .ok front) :
    front.scheme ≠ [] ∧ front.target = base.basePath ++ [0x2F] ∧
      IsSettled (base.basePath ++ [0x2F]) := by
  have htarget : base.target = if base.path.isEmpty then [0x2F] else base.path := by
    rw [Url.target, hquery, List.append_nil]
  unfold Url.asBase at h
  by_cases hempty : base.path = []
  · -- the path of an address without one is a slash
    rw [hempty] at htarget
    rw [htarget] at h
    cases h
    have hbase : base.basePath = [] := by
      rw [Url.basePath, hempty]
      rfl
    rw [hbase, htarget]
    exact ⟨hscheme, rfl, isSettled_slash⟩
  · rw [if_neg (by simpa using hempty)] at htarget
    rw [htarget] at h
    by_cases hlast : base.path.getLast? = some 0x2F
    · rw [if_pos hlast] at h
      cases h
      have hwhole : base.basePath ++ [0x2F] = base.path := by
        rw [Url.basePath, if_pos hlast]
        exact List.dropLast_append_getLast? 0x2F hlast
      rw [hwhole, htarget]
      exact ⟨hscheme, rfl, hpath⟩
    · rw [if_neg hlast] at h
      have hbase : base.basePath = base.path := by rw [Url.basePath, if_neg hlast]
      have hsettled := hpath.slash
      rcases withTarget_eq_ok h hscheme hsettled.no_query with ⟨hfront, hnone, hform⟩
      rw [hsettled.eq] at hform
      rw [hbase]
      refine ⟨hfront, ?_, hsettled⟩
      rw [Url.target, hnone, hform, List.append_nil, if_neg (by simp)]

/-! ## The path of a request -/

theorem runPath_eq (name : Text) :
    runPath name = 0x2F :: (lit "api" ++ 0x2F :: (lit "run" ++ 0x2F :: encodeSegment name)) := rfl

/-- Only letters, digits, marks and percent signs stand in a segment. -/
theorem mem_encodeSegment {name : Text} (h : IsEncodable name) {x : Nat}
    (hx : x ∈ encodeSegment name) : isUnreserved x = true ∨ x = 0x25 := by
  rcases kept_percentEncode h hx with hun | hkeeps | hsign
  · exact Or.inl hun
  · cases hkeeps
  · exact Or.inr hsign

theorem mem_runPath {name : Text} (h : IsEncodable name) {x : Nat} (hx : x ∈ runPath name) :
    isUnreserved x = true ∨ x = 0x25 ∨ x = 0x2F := by
  have hroute : ∀ y ∈ lit "/api/run/", isUnreserved y = true ∨ y = 0x25 ∨ y = 0x2F := by decide
  rcases List.mem_append.1 hx with hx | hx
  · exact hroute x hx
  · rcases mem_encodeSegment h hx with hun | hsign
    · exact Or.inl hun
    · exact Or.inr (Or.inl hsign)

theorem not_mem_runPath {name : Text} (h : IsEncodable name) {x : Nat}
    (hx : isUnreserved x = false ∧ x ≠ 0x25 ∧ x ≠ 0x2F) : x ∉ runPath name := by
  intro hmem
  rcases mem_runPath h hmem with hun | hsign | hslash
  · rw [hx.1] at hun
    cases hun
  · exact hx.2.1 hsign
  · exact hx.2.2 hslash

/-- No mark in the path divides it. -/
theorem parts_runPath {name : Text} (h : IsEncodable name) :
    Parts.ofText (runPath name) = { path := runPath name } := by
  have hscheme : splitScheme (runPath name) = ([], runPath name) := rfl
  have hauthority : splitAuthority (runPath name) = ([], runPath name) := rfl
  have hfragment : cut 0x23 (runPath name) = (runPath name, none) :=
    cut_of_not_mem (not_mem_runPath h (by decide))
  have hquery : cut 0x3F (runPath name) = (runPath name, none) :=
    cut_of_not_mem (not_mem_runPath h (by decide))
  simp only [Parts.ofText, hscheme, hauthority, hfragment, hquery]

/-- Encoding leaves the path as it is. -/
theorem encodePart_runPath {name : Text} (h : IsEncodable name) :
    encodePart pathKeeps (runPath name) = .ok (runPath name) := by
  refine encodePart_eq_ok.2 ⟨fun x hx => ?_, (percentEncode_of_kept fun x hx => ?_).symm⟩
  · rcases mem_runPath h hx with hun | hx | hx
    · have hbounds := isUnreserved_iff.1 hun
      have hscalar : Text.IsScalar x := Or.inl (by omega)
      exact (isScalar_iff.1 hscalar).1
    · rw [hx]
      decide
    · rw [hx]
      decide
  · rcases mem_runPath h hx with hun | hx | hx
    · exact Or.inl hun
    · rw [hx]
      exact Or.inr (by decide)
    · rw [hx]
      exact Or.inr (by decide)

/-- A path alone is read as it is, dots included. -/
theorem ofText_runPath {name : Text} {u : Url} (h : IsEncodable name)
    (hu : Url.ofText (runPath name) = .ok u) : u = { path := runPath name } := by
  have hform : Url.ofParts { path := runPath name } =
      (encodePart pathKeeps (runPath name)).bind fun path => .ok { path } := rfl
  unfold Url.ofText at hu
  split at hu
  · cases hu
  split at hu
  · cases hu
  rw [parts_runPath h, hform, encodePart_runPath h] at hu
  cases hu
  rfl

theorem request_eq_ok {q : Request} (h : c.request = .ok q) :
    ∃ front, (Url.ofText c.clusterUrl).bind Url.asBase = .ok front ∧
      (Url.ofText (runPath c.container)).bind front.join = .ok q.url := by
  unfold Config.request at h
  split at h
  · cases h
  · next front hfront =>
    split at h
    · cases h
    · split at h
      · cases h
      · next url hurl =>
        cases h
        exact ⟨front, hfront, hurl⟩

theorem prepare_of_sent {r : Reply} {q : Request} (h : q ∈ c.sent r) :
    c.prepare.value = .ok q := by
  rw [sent_eq] at h
  cases hprepare : c.prepare.value with
  | error e =>
    rw [hprepare] at h
    exact absurd h List.not_mem_nil
  | ok p =>
    rw [hprepare] at h
    rw [List.mem_singleton.1 h]

/-- A request that is sent goes to the joined path in its form. -/
theorem path_of_sent (hweb : c.OnWeb base) (hname : ∀ x ∈ c.container, x ≤ 0x10FFFF) {r : Reply}
    {q : Request} (hq : q ∈ c.sent r) :
    IsEncodable c.container ∧ IsSettled (base.basePath ++ [0x2F]) ∧
      q.url.path = percentEncode pathKeeps (removeDots (base.basePath ++ runPath c.container)) := by
  have hprepare := prepare_of_sent hq
  have hrequestable : c.Requestable := (exists_prepared_iff c).1 ⟨q, hprepare⟩
  have hencodable : IsEncodable c.container := fun x hx =>
    isScalar_iff.2 ⟨hrequestable.container x hx, hname x hx⟩
  have hrequest : c.request = .ok q := by
    rw [prepare_value] at hprepare
    split at hprepare
    · cases hprepare
    · exact hprepare
  rcases request_eq_ok hrequest with ⟨front, hfront, hurl⟩
  rw [hweb.address] at hfront
  rcases asBase_eq_ok hweb.scheme_ne hweb.query hweb.isSettled hfront with
    ⟨hscheme, htarget, hsettled⟩
  cases hrun : Url.ofText (runPath c.container) with
  | error e =>
    rw [hrun] at hurl
    cases hurl
  | ok u =>
    rw [hrun] at hurl
    have hu := ofText_runPath hencodable hrun
    subst hu
    have hjoin : front.withTarget
        (front.target ++ (Url.target { path := runPath c.container }).dropWhile (· == 0x2F)) =
        .ok q.url := hurl
    have hpath : Url.target { path := runPath c.container } = runPath c.container := by
      rw [Url.target, List.append_nil]
      rfl
    have hwhole : front.target ++ (runPath c.container).dropWhile (· == 0x2F) =
        base.basePath ++ runPath c.container := by
      rw [htarget, List.append_assoc]
      rfl
    rw [hpath, hwhole] at hjoin
    -- no question mark stands in it, so that all of it is a path
    have hquery : 0x3F ∉ base.basePath ++ runPath c.container := by
      intro hmem
      rcases List.mem_append.1 hmem with hmem | hmem
      · exact hsettled.no_query (List.mem_append_left _ hmem)
      · exact not_mem_runPath hencodable (by decide) hmem
    exact ⟨hencodable, hsettled, (withTarget_eq_ok hjoin hscheme hquery).2.2⟩

/-! ## What dots in the place of a name do -/

theorem splitOn_runPath (front name : Text) :
    splitOn 0x2F (front ++ runPath name) =
      splitOn 0x2F front ++ [lit "api", lit "run", encodeSegment name] := by
  have hsegment : 0x2F ∉ encodeSegment name := by
    intro hmem
    rcases List.mem_flatMap.1 hmem with ⟨x, -, hx⟩
    split at hx
    · next hun =>
      rw [← List.mem_singleton.1 hx] at hun
      revert hun
      decide
    · exact slash_not_mem_percentEncoded x hx
  have hapi : 0x2F ∉ lit "api" := by decide
  have hrun : 0x2F ∉ lit "run" := by decide
  rw [runPath_eq, splitOn_append, splitOn_append, splitOn_append, Text.splitOn_of_not_mem hapi,
    Text.splitOn_of_not_mem hrun, Text.splitOn_of_not_mem hsegment]
  rfl

/-- The segment of a name is removed only if the name is. -/
theorem isDots_encodeSegment {name : Text} : IsDots (encodeSegment name) ↔ IsDots name := by
  constructor
  · intro h
    have hsign : 0x25 ∉ encodeSegment name := by
      rcases h with h | h
      · rw [h]
        decide
      · rw [h]
        decide
    have hself : encodeSegment name = name := percentEncode_of_no_sign hsign
    exact hself ▸ h
  · intro h
    have hself : encodeSegment name = name := by
      rcases h with h | h
      · rw [h]
        decide
      · rw [h]
        decide
    exact hself.symm ▸ h

section

variable {front name : Text}

theorem removeDots_runPath (hfront : HasNoDots front) (hname : ¬ IsDots name) :
    removeDots (front ++ runPath name) = front ++ runPath name := by
  refine removeDots_of_hasNoDots fun s hs => ?_
  rw [splitOn_runPath] at hs
  rcases List.mem_append.1 hs with hs | hs
  · exact hfront s hs
  · simp only [List.mem_cons, List.not_mem_nil, or_false] at hs
    rcases hs with hs | hs | hs
    · rw [hs]
      decide
    · rw [hs]
      decide
    · rw [hs, isDots_encodeSegment]
      exact hname

/-- The segments that are kept if the last one is dots. -/
theorem removeDots_of_dots (hfront : HasNoDots front) (hname : IsDots name) :
    removeDots (front ++ runPath name) =
      join [0x2F] (passSegment (splitOn 0x2F front ++ [lit "api", lit "run"])
        (encodeSegment name)) := by
  have hdots : ¬ HasNoDots (front ++ runPath name) := by
    intro h
    refine h (encodeSegment name) ?_ (isDots_encodeSegment.2 hname)
    rw [splitOn_runPath]
    simp
  have hroute : ∀ s ∈ [lit "api", lit "run"], ¬ IsDots s := by decide
  have hkept : ∀ s ∈ splitOn 0x2F front ++ [lit "api", lit "run"], ¬ IsDots s := by
    intro s hs
    rcases List.mem_append.1 hs with hs | hs
    · exact hfront s hs
    · exact hroute s hs
  have hsegments : splitOn 0x2F front ++ [lit "api", lit "run", encodeSegment name] =
      (splitOn 0x2F front ++ [lit "api", lit "run"]) ++ [encodeSegment name] := by
    rw [List.append_assoc]
    rfl
  rw [removeDots_eq, if_pos (any_dots_iff.2 hdots), splitOn_runPath, hsegments, List.foldl_append,
    foldl_passSegment hkept]
  rfl

theorem removeDots_oneDot (hfront : HasNoDots front) :
    removeDots (front ++ runPath (lit ".")) = front ++ lit "/api/run" := by
  have hpass : ∀ kept, passSegment kept (encodeSegment (lit ".")) = kept := fun _ => rfl
  have hwhole : splitOn 0x2F front ++ [lit "api", lit "run"] =
      splitOn 0x2F (front ++ lit "/api/run") := by
    show _ = splitOn 0x2F (front ++ 0x2F :: lit "api/run")
    rw [splitOn_append]
    rfl
  rw [removeDots_of_dots hfront (Or.inl rfl), hpass, hwhole, join_splitOn]

theorem removeDots_twoDots (hfront : HasNoDots front) :
    removeDots (front ++ runPath (lit "..")) = front ++ lit "/api" := by
  have hpass : passSegment (splitOn 0x2F front ++ [lit "api", lit "run"])
      (encodeSegment (lit "..")) = splitOn 0x2F front ++ [lit "api"] := by
    have hone : encodeSegment (lit "..") ≠ lit "." := by decide
    have htwo : encodeSegment (lit "..") = lit ".." := by decide
    have hroot : ((splitOn 0x2F front ++ [lit "api", lit "run"]).isEmpty ||
        splitOn 0x2F front ++ [lit "api", lit "run"] == [[]]) = false := by
      cases splitOn 0x2F front with
      | nil => decide
      | cons s ss => simp
    rw [passSegment, if_neg hone, if_pos htwo, hroot]
    show (splitOn 0x2F front ++ [lit "api", lit "run"]).dropLast = _
    rw [List.dropLast_append_of_ne_nil (by simp)]
    rfl
  have hwhole : splitOn 0x2F front ++ [lit "api"] = splitOn 0x2F (front ++ lit "/api") := by
    show _ = splitOn 0x2F (front ++ 0x2F :: lit "api")
    rw [splitOn_append]
    rfl
  rw [removeDots_of_dots hfront (Or.inr rfl), hpass, hwhole, join_splitOn]

end

/-! ## The result -/

/-- The path leads to the container: behind that of the cluster stands one segment that denotes the
name. -/
def LeadsToContainer (base : Url) (name path : Text) : Prop :=
  ∃ segment, path = base.basePath ++ lit "/api/run/" ++ segment ∧
    (∀ x ∈ segment, x ≠ 0x2F ∧ x ≠ 0x3F ∧ x ≠ 0x23) ∧
    Text.decode (percentDecode segment) = .ok name

/-- A path leads to one container at most. -/
theorem LeadsToContainer.unique {base other : Url} {name name' path : Text}
    (h : LeadsToContainer base name path) (h' : LeadsToContainer other name' path) :
    name = name' := by
  rcases h with ⟨segment, hpath, hmarks, hname⟩
  rcases h' with ⟨segment', hpath', hmarks', hname'⟩
  have hlast : ∀ (front s : Text), (∀ x ∈ s, x ≠ 0x2F ∧ x ≠ 0x3F ∧ x ≠ 0x23) →
      (splitOn 0x2F (front ++ lit "/api/run/" ++ s)).getLast? = some s := by
    intro front s hs
    have hslash : 0x2F ∉ s := fun hmem => (hs _ hmem).1 rfl
    have hroute : front ++ lit "/api/run/" ++ s = (front ++ lit "/api/run") ++ 0x2F :: s := by
      rw [List.append_assoc, List.append_assoc]
      rfl
    rw [hroute, splitOn_append, Text.splitOn_of_not_mem hslash, List.getLast?_concat]
  have hsegment : segment = segment' := by
    have hone := hlast base.basePath segment hmarks
    have htwo := hlast other.basePath segment' hmarks'
    rw [← hpath, hpath', htwo] at hone
    exact (Option.some.inj hone).symm
  rw [hsegment, hname'] at hname
  exact (Except.ok.inj hname).symm

/-- What is behind the path of a cluster needs no encoding. -/
theorem percentEncode_behind {front t : Text} (hfront : IsSettled (front ++ [0x2F]))
    (ht : ∀ x ∈ t, isUnreserved x = true ∨ x = 0x25 ∨ x = 0x2F) :
    percentEncode pathKeeps (front ++ t) = front ++ t := by
  have hmarks : pathKeeps 0x25 = true ∧ pathKeeps 0x2F = true := by decide
  refine percentEncode_of_kept fun x hx => ?_
  rcases List.mem_append.1 hx with hx | hx
  · exact hfront.kept x (List.mem_append_left _ hx)
  · rcases ht x hx with hun | hsign | hslash
    · exact Or.inl hun
    · exact Or.inr (hsign ▸ hmarks.1)
    · exact Or.inr (hslash ▸ hmarks.2)

theorem IsSettled.front {front : Text} (h : IsSettled (front ++ [0x2F])) : HasNoDots front := by
  intro s hs
  refine h.noDots s ?_
  rw [splitOn_append]
  exact List.mem_append_left _ hs

theorem leadsToContainer_of_sent (hweb : c.OnWeb base) (hname : ∀ x ∈ c.container, x ≤ 0x10FFFF)
    (hdots : ¬ IsDots c.container) {r : Reply} {q : Request} (hq : q ∈ c.sent r) :
    LeadsToContainer base c.container q.url.path := by
  rcases path_of_sent hweb hname hq with ⟨hencodable, hsettled, hpath⟩
  have hkept := percentEncode_behind hsettled fun x hx => mem_runPath hencodable hx
  rw [removeDots_runPath hsettled.front hdots, hkept] at hpath
  refine ⟨encodeSegment c.container, ?_, fun x hx => ?_, ?_⟩
  · rw [hpath, List.append_assoc]
    rfl
  · rcases mem_encodeSegment hencodable hx with hun | hsign
    · have hbounds := isUnreserved_iff.1 hun
      omega
    · omega
  · rw [percentDecode_encodeSegment hencodable, Text.decode_encode hencodable]

/-- Where the requests of a configuration go. -/
structure GoesToContainer (c : Config) (base : Url) : Prop where
  /-- A request is sent if one can be made. -/
  sent : c.Requestable → ∀ r, ∃ q, c.sent r = [q]
  /-- It leads to the container, unless the name of that is dots. -/
  reached : ¬ IsDots c.container → ∀ r, ∀ q ∈ c.sent r,
    LeadsToContainer base c.container q.url.path
  /-- One dot leads to what holds the containers. -/
  oneDot : c.container = lit "." → ∀ r, ∀ q ∈ c.sent r,
    q.url.path = base.basePath ++ lit "/api/run"
  /-- Two dots lead to what holds that. -/
  twoDots : c.container = lit ".." → ∀ r, ∀ q ∈ c.sent r,
    q.url.path = base.basePath ++ lit "/api"
  /-- No other name leads to the same address, whatever the cluster is. -/
  distinct : ∀ (d : Config) (other : Url), d.OnWeb other → (∀ x ∈ d.container, x ≤ 0x10FFFF) →
    ¬ IsDots c.container → ¬ IsDots d.container → ∀ r r', ∀ q ∈ c.sent r, ∀ q' ∈ d.sent r',
    q.url = q'.url → c.container = d.container

/-- Every request for a container of a cluster on the web goes there, unless the name of the
container is dots, and to no other container. -/
theorem container_reached (hweb : c.OnWeb base) (hname : ∀ x ∈ c.container, x ≤ 0x10FFFF) :
    GoesToContainer c base where
  sent := fun hrequestable _ => sent_iff.2 hrequestable
  reached := fun hdots _ _ hq => leadsToContainer_of_sent hweb hname hdots hq
  oneDot := by
    intro hdot r q hq
    have hroute : ∀ x ∈ lit "/api/run", isUnreserved x = true ∨ x = 0x25 ∨ x = 0x2F := by decide
    rcases path_of_sent hweb hname hq with ⟨-, hsettled, hpath⟩
    rw [hpath, hdot, removeDots_oneDot hsettled.front, percentEncode_behind hsettled hroute]
  twoDots := by
    intro hdots r q hq
    have hroute : ∀ x ∈ lit "/api", isUnreserved x = true ∨ x = 0x25 ∨ x = 0x2F := by decide
    rcases path_of_sent hweb hname hq with ⟨-, hsettled, hpath⟩
    rw [hpath, hdots, removeDots_twoDots hsettled.front, percentEncode_behind hsettled hroute]
  distinct := by
    intro d other hother hname' hdots hdots' r r' q hq q' hq' hurl
    have hone := leadsToContainer_of_sent hweb hname hdots hq
    have htwo := leadsToContainer_of_sent hother hname' hdots' hq'
    rw [hurl] at hone
    exact hone.unique htwo

end

/-- A configuration with a container whose name has marks of all sorts. -/
def markedContainer : Config where
  clusterUrl := lit "HTTP://h/x/"
  container := lit "a/../b?c#d%2F é"
  token := lit "t"
  clusterUrl_ne := List.cons_ne_nil _ _
  container_ne := List.cons_ne_nil _ _
  token_ne := List.cons_ne_nil _ _

/-- The address of its cluster. -/
def markedBase : Url := { scheme := lit "http", host := lit "h", path := lit "/x/" }

theorem onWeb_markedContainer : markedContainer.OnWeb markedBase where
  text := by decide
  address := by decide +kernel
  scheme := Or.inl rfl
  query := rfl

/-- The request for it goes to one segment below the path of the cluster. -/
theorem reached_markedContainer :
    markedContainer.OnWeb markedBase ∧ (∀ x ∈ markedContainer.container, x ≤ 0x10FFFF) ∧
    ∃ q, markedContainer.sent (.response 200 []) = [q] ∧
      q.url.path = lit "/x/api/run/a%2F..%2Fb%3Fc%23d%252F%20%C3%A9" ∧
      LeadsToContainer markedBase (lit "a/../b?c#d%2F é") q.url.path := by
  have htext : ∀ x ∈ markedContainer.container, x ≤ 0x10FFFF := by decide
  have hpaths : (markedContainer.sent (.response 200 [])).map (·.url.path) =
      [lit "/x/api/run/a%2F..%2Fb%3Fc%23d%252F%20%C3%A9"] := by decide +kernel
  rcases List.map_eq_singleton_iff.1 hpaths with ⟨q, hq, hpath⟩
  have hsent : q ∈ markedContainer.sent (.response 200 []) := by
    rw [hq]
    exact List.mem_singleton_self q
  have hreached := (container_reached onWeb_markedContainer htext).reached (by decide) _ q hsent
  exact ⟨onWeb_markedContainer, htext, q, hq, hpath, hreached⟩

/-- A configuration with a container whose name is two dots. -/
def dottedContainer : Config where
  clusterUrl := lit "https://h"
  container := lit ".."
  token := lit "t"
  clusterUrl_ne := List.cons_ne_nil _ _
  container_ne := List.cons_ne_nil _ _
  token_ne := List.cons_ne_nil _ _

/-- Not every request leads to its container. -/
theorem not_all_containers_reached :
    ¬ ∀ (c : Config) (base : Url) (r : Reply) (q : Request), c.OnWeb base →
      IsEncodable c.container → q ∈ c.sent r →
      LeadsToContainer base c.container q.url.path := by
  intro h
  have hweb : dottedContainer.OnWeb { scheme := lit "https", host := lit "h" } :=
    ⟨by decide, by decide +kernel, Or.inr rfl, rfl⟩
  have hpaths : (dottedContainer.sent (.response 200 [])).map (·.url.path) = [lit "/api"] := by
    decide +kernel
  rcases List.map_eq_singleton_iff.1 hpaths with ⟨q, hq, hpath⟩
  have hsent : q ∈ dottedContainer.sent (.response 200 []) := by
    rw [hq]
    exact List.mem_singleton_self q
  rcases h _ _ _ q hweb (by decide) hsent with ⟨segment, hsegment, -, -⟩
  have hlength := congrArg List.length (hpath.symm.trans hsegment)
  rw [List.append_assoc, List.length_append, List.length_append] at hlength
  have hroute : (lit "/api/run/").length = 9 := by decide
  have hapi : (lit "/api").length = 4 := by decide
  omega

end ScriptDeps.Cluster

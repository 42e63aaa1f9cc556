import Mathlib.Data.List.Dedup
import Mathlib.Data.List.DropRight
import ScriptDeps.Proofs.Cache.Transparency
import ScriptDeps.Proofs.Text.Utf8

namespace ScriptDeps.Cache

open Text (lit toBytes)

/-! # The cache keeps what was used last

With keys that do not collide, the scripts in an enabled cache are those that were read last since
it was cleared, as many as it has room for, in the order of their last use. A script that is read
while it is in the cache is the very object that was made when it was read earlier; every other
reading makes a new object. Main statements:

* `fetch_of_mem` and `fetch_of_not_mem`: what one reading does to the cache;
* `tracks_after`: what holds of a cache after all uses;
* `keeps_recent`: which sources are in the cache, and which object a reading gives.
-/

/-! ## Lists in the order of last use -/

section

variable {α : Type}

/-- Enough items at the end hide what is before them. -/
theorem rtake_append_of_le {k : Nat} {l behind : List α} (h : k ≤ behind.length) :
    (l ++ behind).rtake k = behind.rtake k := by
  have hbefore : l.length + behind.length - k - l.length = behind.length - k := by omega
  unfold List.rtake
  rw [List.length_append, List.drop_append, List.drop_eq_nil_of_le (by omega), hbefore,
    List.nil_append]

theorem map_rtake {β : Type} (f : α → β) (k : Nat) (l : List α) :
    (l.rtake k).map f = (l.map f).rtake k := by
  rw [List.rtake, List.rtake, List.map_drop, List.length_map]

/-- The last items of a list are the whole list, or as many as there should be. -/
theorem exists_rtake (k : Nat) (l : List α) :
    ∃ before, l = before ++ l.rtake k ∧ (before = [] ∨ (l.rtake k).length = k) ∧
      (l.rtake k).length ≤ k := by
  refine ⟨l.take (l.length - k), (List.take_append_drop (l.length - k) l).symm, ?_, ?_⟩
  · by_cases hk : l.length ≤ k
    · left
      rw [Nat.sub_eq_zero_of_le hk, List.take_zero]
    · right
      rw [List.rtake, List.length_drop]
      omega
  · rw [List.rtake, List.length_drop]
    omega

variable [DecidableEq α]

/-- In a list without duplicates, an item stands once. -/
theorem filter_eq_singleton {a : α} {l : List α} (hl : l.Nodup) (ha : a ∈ l) :
    l.filter (· = a) = [a] := by
  rw [List.filter_eq, List.count_eq_one_of_mem hl ha]
  rfl

/-- The list with an item moved to its end. -/
def atEnd (a : α) (l : List α) : List α := l.filter (· ≠ a) ++ [a]

theorem length_atEnd_of_mem {a : α} {l : List α} (hl : l.Nodup) (ha : a ∈ l) :
    (atEnd a l).length = l.length := by
  have hparts := List.length_eq_length_filter_add (l := l) (· = a)
  rw [filter_eq_singleton hl ha] at hparts
  rw [atEnd, List.length_append, hparts, Nat.add_comm]
  simp only [decide_not]

/-- The last occurrence of an item counts. -/
theorem dedup_concat (a : α) (l : List α) : (l ++ [a]).dedup = atEnd a l.dedup := by
  induction l with
  | nil => rfl
  | cons b l ih =>
    rw [List.cons_append, List.dedup_cons, List.dedup_cons, ih]
    by_cases hb : b ∈ l
    · rw [if_pos hb, if_pos (List.mem_append_left [a] hb)]
    · rw [if_neg hb]
      by_cases hba : b = a
      · have hlast : b ∈ l ++ [a] := by simp [hba]
        rw [if_pos hlast, atEnd, atEnd, List.filter_cons_of_neg (by simp [hba])]
      · have hnew : b ∉ l ++ [a] := by simp [hb, hba]
        rw [if_neg hnew, atEnd, atEnd, List.filter_cons_of_pos (by simp [hba]), List.cons_append]

/-- An item among the last ones moves to their end. -/
theorem rtake_atEnd_of_mem {k : Nat} {a : α} {l : List α} (hl : l.Nodup) (ha : a ∈ l.rtake k) :
    (atEnd a l).rtake k = atEnd a (l.rtake k) := by
  obtain ⟨before, hsplit, hfull, hbound⟩ := exists_rtake k l
  generalize l.rtake k = last at ha hsplit hfull hbound ⊢
  subst hsplit
  have hlast : last.Nodup := (List.nodup_append.1 hl).2.1
  have hbefore : before.filter (· ≠ a) = before := by
    refine List.filter_eq_self.2 fun b hb => ?_
    simpa using (List.nodup_append.1 hl).2.2 b hb a ha
  have hmoved : atEnd a (before ++ last) = before ++ atEnd a last := by
    rw [atEnd, List.filter_append, hbefore, List.append_assoc, atEnd]
  have hlength : (atEnd a last).length = last.length := length_atEnd_of_mem hlast ha
  have hall : (atEnd a last).rtake k = atEnd a last := by
    rw [List.rtake, Nat.sub_eq_zero_of_le (by omega), List.drop_zero]
  rw [hmoved]
  rcases hfull with rfl | hfull
  · exact hall
  · rw [rtake_append_of_le (by omega), hall]

/-- Any other item is added to the last ones. -/
theorem rtake_atEnd_of_not_mem {k : Nat} {a : α} {l : List α} (ha : a ∉ l.rtake k) :
    (atEnd a l).rtake k = (l.rtake k ++ [a]).rtake k := by
  obtain ⟨before, hsplit, hfull, -⟩ := exists_rtake k l
  generalize l.rtake k = last at ha hsplit hfull ⊢
  subst hsplit
  have hlast : last.filter (· ≠ a) = last := by
    refine List.filter_eq_self.2 fun b hb => ?_
    have hne : b ≠ a := fun h => ha (h ▸ hb)
    simpa using hne
  rw [atEnd, List.filter_append, hlast, List.append_assoc]
  rcases hfull with rfl | hfull
  · rfl
  · have hroom : k ≤ (last ++ [a]).length := by
      rw [List.length_append]
      omega
    exact rtake_append_of_le hroom

end

/-! ## Uses -/

/-- A use of the cache: reading bytes, reading a text, or forgetting everything. -/
inductive Use where
  | bytes (source : ByteArray)
  | text (t : Text)
  | clear
deriving DecidableEq

/-- The source that is read. A text with surrogates has none. -/
def Use.source? : Use → Option ByteArray
  | .bytes source => some source
  | .text t => if t.IsEncodable then some (toBytes t.encode) else none
  | .clear => none

variable {κ : Type}

/-- What is done with the cache. -/
def Use.action? : Use → Option (Action κ)
  | .clear => some .clear
  | u => u.source?.map .read

/-- The sources that were read since everything was forgotten. -/
def sourcesRead (uses : List Use) : List ByteArray :=
  (uses.rtakeWhile (· ≠ .clear)).filterMap Use.source?

/-- The same sources, each once, in the order of their last use. -/
def recent (uses : List Use) : List ByteArray := (sourcesRead uses).dedup

/-- The sources in the cache in their order. -/
def sources (c : Cache κ) : List ByteArray := c.entries.map (·.script.source)

section

variable [DecidableEq κ]

/-- The cache after some uses. -/
def after (hash : ByteArray → κ) (capacity : Nat) (uses : List Use) : Cache κ :=
  ((empty capacity true).run hash (uses.filterMap Use.action?)).2

/-- Reading the source after the uses gives the object. -/
def Gives (hash : ByteArray → κ) (capacity : Nat) (uses : List Use) (source : ByteArray)
    (x : Cached κ) : Prop :=
  ((after hash capacity uses).fetch hash source).1 = .ok x

/-- Reading the source after the uses makes the object: its serial number is new. -/
def Makes (hash : ByteArray → κ) (capacity : Nat) (uses : List Use) (source : ByteArray)
    (x : Cached κ) : Prop :=
  Gives hash capacity uses source x ∧ x.serial = (after hash capacity uses).nextSerial

/-- One of the uses read the source and made the object. -/
def MadeDuring (hash : ByteArray → κ) (capacity : Nat) (uses : List Use) (source : ByteArray)
    (x : Cached κ) : Prop :=
  ∃ earlier use, earlier ++ [use] <+: uses ∧ use.source? = some source ∧
    Makes hash capacity earlier source x

end

/-! ## One reading -/

section

variable {c : Cache κ} {hash : ByteArray → κ}

/-- An enabled cache in which every script stands under the key of its source. -/
structure Keyed (hash : ByteArray → κ) (c : Cache κ) : Prop where
  enabled : c.enabled = true
  keyed : ∀ e ∈ c.entries, e.key = hash e.script.source

theorem mem_sources {source : ByteArray} :
    source ∈ c.sources ↔ ∃ e ∈ c.entries, e.script.source = source := List.mem_map

/-- A script stands under the key of a source only if it is the script of the source. -/
theorem Keyed.key_eq_iff (h : Keyed hash c) (hinj : hash.Injective) {e : Cached κ}
    (he : e ∈ c.entries) (source : ByteArray) : e.key = hash source ↔ e.script.source = source := by
  rw [h.keyed e he]
  exact hinj.eq_iff

variable [DecidableEq κ]

/-- A source in the cache gives the object that is there, which then was used last. -/
theorem fetch_of_mem (h : Keyed hash c) (hinj : hash.Injective) {source : ByteArray}
    (hsource : source ∈ c.sources) :
    ∃ x ∈ c.entries, x.script.source = source ∧
      c.fetch hash source = (.ok x, c.touch (hash source)) := by
  obtain ⟨e, he, hesource⟩ := mem_sources.1 hsource
  cases hfind : c.find? (hash source) with
  | none =>
    have hkey : e.key = hash source := (h.key_eq_iff hinj he source).2 hesource
    have hother := List.find?_eq_none.1 hfind e he
    simp [hkey] at hother
  | some x =>
    have hx : x ∈ c.entries := List.mem_of_find?_eq_some hfind
    have hkey : x.key = hash source := by simpa using List.find?_some hfind
    have hxsource : x.script.source = source := (h.key_eq_iff hinj hx source).1 hkey
    refine ⟨x, hx, hxsource, ?_⟩
    simp only [fetch, get, h.enabled, hfind, hxsource, if_true]

/-- A script under a new key is added as the one that was used last. -/
theorem store_of_new {x : Cached κ} {es : List (Cached κ)} (h : ∀ e ∈ es, e.key ≠ x.key) :
    store x es = es ++ [x] := by
  induction es with
  | nil => rfl
  | cons e es ih =>
    have hrest : ∀ d ∈ es, d.key ≠ x.key := fun d hd => h d (List.mem_cons_of_mem e hd)
    rw [store, if_neg (h e List.mem_cons_self), ih hrest, List.cons_append]

/-- Any other source gives a new object, which is added as the one that was used last. -/
theorem fetch_of_not_mem (h : Keyed hash c) (hinj : hash.Injective) {capacity : Nat}
    (hcapacity : c.capacity = capacity) {source : ByteArray} (hsource : source ∉ c.sources)
    {x : Cached κ} (hx : x = ⟨hash source, c.nextSerial, Script.ofSource source⟩) :
    c.fetch hash source = (.ok x, { c with
      entries := (c.entries ++ [x]).rtake capacity, nextSerial := c.nextSerial + 1 }) := by
  have hnew : ∀ e ∈ c.entries, e.key ≠ hash source := fun e he hkey =>
    hsource (mem_sources.2 ⟨e, he, (h.key_eq_iff hinj he source).1 hkey⟩)
  have hfind : c.find? (hash source) = none :=
    List.find?_eq_none.2 fun e he => by simpa using hnew e he
  have hstore : store x c.entries = c.entries ++ [x] :=
    store_of_new fun e he => hx ▸ hnew e he
  have hallowed : ¬ (capacity : Int) < 0 := by omega
  rw [fetch, get, if_pos h.enabled, hfind]
  simp only [readAnew, fresh, ← hx, put, h.enabled, if_true, evict, size, hstore, hcapacity,
    decide_eq_false hallowed, Int.toNat_natCast, List.rtake]

/-- The script that was used moves to the end. -/
theorem sources_touch (h : Keyed hash c) (hinj : hash.Injective) (hnodup : c.sources.Nodup)
    {source : ByteArray} (hsource : source ∈ c.sources) :
    (c.touch (hash source)).sources = atEnd source c.sources := by
  have hkey : ∀ e ∈ c.entries, (e.key == hash source) = decide (e.script.source = source) := by
    intro e he
    rw [beq_eq_decide, decide_eq_decide]
    exact h.key_eq_iff hinj he source
  have hused : c.entries.filter (fun e => e.key == hash source) =
      c.entries.filter (fun e => e.script.source = source) := List.filter_congr hkey
  have hothers : c.entries.filter (fun e => e.key != hash source) =
      c.entries.filter (fun e => e.script.source ≠ source) :=
    List.filter_congr fun e he => by rw [bne, hkey e he, decide_not]
  rw [sources, touch, hothers, hused, List.map_append, atEnd, ← filter_eq_singleton hnodup hsource,
    sources, List.filter_map, List.filter_map]
  rfl

end

/-! ## One use after the others -/

theorem Use.action?_of_ne {u : Use} (hu : u ≠ .clear) :
    (u.action? : Option (Action κ)) = u.source?.map .read := by
  cases u with
  | bytes source => rfl
  | text t => rfl
  | clear => exact absurd rfl hu

/-- A use reads a source, forgets everything, or does nothing to the cache. -/
theorem Use.read_or_clear_or_none (κ : Type) (u : Use) :
    (∃ source, u.source? = some source ∧ (u.action? : Option (Action κ)) = some (.read source)) ∨
      u = .clear ∨
      (u ≠ .clear ∧ u.source? = none ∧ (u.action? : Option (Action κ)) = none) := by
  by_cases hclear : u = .clear
  · exact Or.inr (Or.inl hclear)
  · have haction : (u.action? : Option (Action κ)) = u.source?.map .read := action?_of_ne hclear
    cases hsource : u.source? with
    | some source =>
      rw [hsource] at haction
      exact Or.inl ⟨source, rfl, haction⟩
    | none =>
      rw [hsource] at haction
      exact Or.inr (Or.inr ⟨hclear, rfl, haction⟩)

theorem sourcesRead_concat {u : Use} (hu : u ≠ .clear) (uses : List Use) :
    sourcesRead (uses ++ [u]) = sourcesRead uses ++ u.source?.toList := by
  unfold sourcesRead
  rw [List.rtakeWhile_concat_pos _ _ _ (by simpa using hu), List.filterMap_append]
  cases hsource : u.source? with
  | none => simp [hsource]
  | some source => simp [hsource]

theorem recent_read {u : Use} {source : ByteArray} (hu : u.source? = some source)
    (uses : List Use) : recent (uses ++ [u]) = atEnd source (recent uses) := by
  have hnot : u ≠ .clear := by
    rintro rfl
    cases hu
  rw [recent, sourcesRead_concat hnot, hu, Option.toList_some, dedup_concat, recent]

theorem recent_clear (uses : List Use) : recent (uses ++ [.clear]) = [] := by
  rw [recent, sourcesRead, List.rtakeWhile_concat_neg _ _ _ (by simp)]
  rfl

variable [DecidableEq κ] {hash : ByteArray → κ} {capacity : Nat} {uses : List Use}

theorem run_concat (hash : ByteArray → κ) (c : Cache κ) (actions : List (Action κ))
    (a : Action κ) :
    (c.run hash (actions ++ [a])).2 = ((c.run hash actions).2.perform hash a).2 := by
  induction actions generalizing c with
  | nil => rfl
  | cons b actions ih => exact ih (c.perform hash b).2

/-- Syntax errors make no difference for what is in the cache. -/
theorem perform_read (hash : ByteArray → κ) (c : Cache κ) (source : ByteArray) :
    (c.perform hash (.read source)).2 = (c.fetch hash source).2 := by
  rw [perform, read]
  rcases c.fetch hash source with ⟨e | x, c'⟩
  · rfl
  · dsimp only
    cases x.script.error? <;> rfl

theorem after_concat {u : Use} {a : Action κ} (hu : u.action? = some a) (uses : List Use) :
    after hash capacity (uses ++ [u]) = ((after hash capacity uses).perform hash a).2 := by
  rw [after, List.filterMap_append, List.filterMap_cons, hu]
  exact run_concat hash _ _ a

theorem after_read {u : Use} {source : ByteArray}
    (hu : (u.action? : Option (Action κ)) = some (.read source)) (uses : List Use) :
    after hash capacity (uses ++ [u]) = ((after hash capacity uses).fetch hash source).2 := by
  rw [after_concat hu, perform_read]

theorem after_clear (uses : List Use) :
    after hash capacity (uses ++ [.clear]) = (after hash capacity uses).clear :=
  after_concat (a := .clear) rfl uses

theorem after_none {u : Use} (hu : (u.action? : Option (Action κ)) = none) (uses : List Use) :
    after hash capacity (uses ++ [u]) = after hash capacity uses := by
  rw [after, List.filterMap_append, List.filterMap_cons, hu, List.filterMap_nil, List.append_nil,
    after]

theorem faithful_after (hash : ByteArray → κ) (capacity : Nat) (uses : List Use) :
    Faithful capacity (after hash capacity uses) :=
  (run_spec hash (.empty capacity true) _).2

/-- Of the uses, the last one made the object or an earlier one did. -/
theorem madeDuring_concat {u : Use} {source : ByteArray} {x : Cached κ} :
    MadeDuring hash capacity (uses ++ [u]) source x ↔
      MadeDuring hash capacity uses source x ∨
        (u.source? = some source ∧ Makes hash capacity uses source x) := by
  constructor
  · rintro ⟨earlier, v, hearlier, hv, hmakes⟩
    rcases List.prefix_concat_iff.1 hearlier with heq | hearlier
    · obtain ⟨rfl, rfl⟩ := List.append_singleton_inj.1 heq
      exact Or.inr ⟨hv, hmakes⟩
    · exact Or.inl ⟨earlier, v, hearlier, hv, hmakes⟩
  · rintro (⟨earlier, v, hearlier, hv, hmakes⟩ | ⟨hu, hmakes⟩)
    · exact ⟨earlier, v, hearlier.trans (List.prefix_append uses [u]), hv, hmakes⟩
    · exact ⟨uses, u, List.prefix_rfl, hu, hmakes⟩

theorem Gives.unique {source : ByteArray} {x y : Cached κ}
    (hx : Gives hash capacity uses source x) (hy : Gives hash capacity uses source y) : x = y :=
  Except.ok.inj (hx.symm.trans hy)

/-! ## What holds after all uses -/

/-- What holds of the cache after some uses. -/
structure Tracks (hash : ByteArray → κ) (capacity : Nat) (uses : List Use) : Prop where
  keyed : Keyed hash (after hash capacity uses)
  sources_eq : (after hash capacity uses).sources = (recent uses).rtake capacity
  made : ∀ e ∈ (after hash capacity uses).entries,
    MadeDuring hash capacity uses e.script.source e
  numbered : ∀ source x, MadeDuring hash capacity uses source x →
    x.serial < (after hash capacity uses).nextSerial

namespace Tracks

theorem start (hash : ByteArray → κ) (capacity : Nat) : Tracks hash capacity [] where
  keyed := ⟨rfl, fun _ he => absurd he List.not_mem_nil⟩
  sources_eq := (List.rtake_nil capacity).symm
  made := fun _ he => absurd he List.not_mem_nil
  numbered := by
    rintro source x ⟨earlier, u, hearlier, -⟩
    exact absurd (List.prefix_nil.1 hearlier) (by simp)

theorem nodup (h : Tracks hash capacity uses) : (after hash capacity uses).sources.Nodup := by
  rw [h.sources_eq]
  exact (List.nodup_dedup _).sublist (List.drop_sublist _ _)

/-- A source that is in the cache gives the object that an earlier use made. -/
theorem gives_of_mem (h : Tracks hash capacity uses) (hinj : hash.Injective) {source : ByteArray}
    (hsource : source ∈ (after hash capacity uses).sources) :
    ∃ x, Gives hash capacity uses source x ∧ MadeDuring hash capacity uses source x ∧
      ¬ Makes hash capacity uses source x := by
  obtain ⟨x, hx, rfl, hfetch⟩ := fetch_of_mem h.keyed hinj hsource
  have hmade := h.made x hx
  refine ⟨x, congrArg Prod.fst hfetch, hmade, ?_⟩
  rintro ⟨-, hserial⟩
  have hlt := h.numbered _ x hmade
  omega

/-- Any other source gives an object that no earlier use made. -/
theorem makes_of_not_mem (h : Tracks hash capacity uses) (hinj : hash.Injective)
    {source : ByteArray} (hsource : source ∉ (after hash capacity uses).sources) :
    ∃ x, Makes hash capacity uses source x ∧ ¬ MadeDuring hash capacity uses source x := by
  have hcapacity := (faithful_after hash capacity uses).capacity_eq
  have hfetch := fetch_of_not_mem h.keyed hinj hcapacity hsource rfl
  refine ⟨_, ⟨congrArg Prod.fst hfetch, rfl⟩, fun hmade => ?_⟩
  exact Nat.lt_irrefl _ (h.numbered source _ hmade)

/-- Forgetting everything leaves the count of objects. -/
theorem clear (h : Tracks hash capacity uses) : Tracks hash capacity (uses ++ [.clear]) where
  keyed := by
    rw [after_clear]
    exact ⟨h.keyed.enabled, fun _ he => absurd he List.not_mem_nil⟩
  sources_eq := by
    rw [after_clear, recent_clear, List.rtake_nil]
    rfl
  made := by
    rw [after_clear]
    exact fun _ he => absurd he List.not_mem_nil
  numbered := by
    intro source x hmade
    rw [after_clear]
    rcases madeDuring_concat.1 hmade with hmade | ⟨hu, -⟩
    · exact h.numbered source x hmade
    · cases hu

/-- A use that does nothing to the cache is not noticed. -/
theorem nothing (h : Tracks hash capacity uses) {u : Use} (hclear : u ≠ .clear)
    (hu : u.source? = none) (haction : (u.action? : Option (Action κ)) = none) :
    Tracks hash capacity (uses ++ [u]) where
  keyed := by
    rw [after_none haction]
    exact h.keyed
  sources_eq := by
    rw [after_none haction, h.sources_eq, recent, recent, sourcesRead_concat hclear, hu,
      Option.toList_none, List.append_nil]
  made := by
    rw [after_none haction]
    exact fun e he => madeDuring_concat.2 (Or.inl (h.made e he))
  numbered := by
    intro source x hmade
    rw [after_none haction]
    rcases madeDuring_concat.1 hmade with hmade | ⟨hsource, -⟩
    · exact h.numbered source x hmade
    · cases hu.symm.trans hsource

/-- Reading what is in the cache moves it to the end. -/
theorem read_of_mem (h : Tracks hash capacity uses) (hinj : hash.Injective) {u : Use}
    {source : ByteArray} (hu : u.source? = some source)
    (haction : (u.action? : Option (Action κ)) = some (.read source))
    (hsource : source ∈ (after hash capacity uses).sources) :
    Tracks hash capacity (uses ++ [u]) := by
  obtain ⟨x, -, -, hfetch⟩ := fetch_of_mem h.keyed hinj hsource
  have hafter : after hash capacity (uses ++ [u]) =
      (after hash capacity uses).touch (hash source) := by
    rw [after_read haction, hfetch]
  constructor
  case keyed =>
    rw [hafter]
    exact ⟨h.keyed.enabled, fun e he => h.keyed.keyed e (mem_touch.1 he)⟩
  case sources_eq =>
    rw [hafter, sources_touch h.keyed hinj h.nodup hsource, recent_read hu, h.sources_eq]
    rw [h.sources_eq] at hsource
    exact (rtake_atEnd_of_mem (List.nodup_dedup _) hsource).symm
  case made =>
    rw [hafter]
    exact fun e he => madeDuring_concat.2 (Or.inl (h.made e (mem_touch.1 he)))
  case numbered =>
    intro source' y hmade
    rw [hafter]
    rcases madeDuring_concat.1 hmade with hmade | ⟨hsource', hmakes⟩
    · exact h.numbered source' y hmade
    · -- what is in the cache was made earlier
      obtain rfl : source = source' := Option.some.inj (hu.symm.trans hsource')
      obtain ⟨z, hz, -, hnew⟩ := h.gives_of_mem hinj hsource
      rw [hz.unique hmakes.1] at hnew
      exact absurd hmakes hnew

/-- Reading anything else adds it at the end, and what was not used for longest has to go if there
is no room. -/
theorem read_of_not_mem (h : Tracks hash capacity uses) (hinj : hash.Injective) {u : Use}
    {source : ByteArray} (hu : u.source? = some source)
    (haction : (u.action? : Option (Action κ)) = some (.read source))
    (hsource : source ∉ (after hash capacity uses).sources) :
    Tracks hash capacity (uses ++ [u]) := by
  obtain ⟨x, hx⟩ : ∃ x : Cached κ,
      x = ⟨hash source, (after hash capacity uses).nextSerial, Script.ofSource source⟩ := ⟨_, rfl⟩
  have hcapacity := (faithful_after hash capacity uses).capacity_eq
  have hfetch := fetch_of_not_mem h.keyed hinj hcapacity hsource hx
  have hmakes : Makes hash capacity uses source x :=
    ⟨congrArg Prod.fst hfetch, congrArg Cached.serial hx⟩
  have hxsource : x.script.source = source := congrArg (·.script.source) hx
  have hentries : (after hash capacity (uses ++ [u])).entries =
      ((after hash capacity uses).entries ++ [x]).rtake capacity := by
    rw [after_read haction, hfetch]
  have hserial : (after hash capacity (uses ++ [u])).nextSerial =
      (after hash capacity uses).nextSerial + 1 := by
    rw [after_read haction, hfetch]
  -- whatever is left was there before or was just read
  have hmem : ∀ e ∈ (after hash capacity (uses ++ [u])).entries,
      e ∈ (after hash capacity uses).entries ∨ e = x := by
    intro e he
    rw [hentries] at he
    rcases List.mem_append.1 (List.mem_of_mem_drop he) with he | he
    · exact Or.inl he
    · exact Or.inr (List.mem_singleton.1 he)
  constructor
  case keyed =>
    refine ⟨?_, fun e he => ?_⟩
    · rw [after_read haction, hfetch]
      exact h.keyed.enabled
    · rcases hmem e he with he | rfl
      · exact h.keyed.keyed e he
      · rw [hxsource]
        exact congrArg Cached.key hx
  case sources_eq =>
    have hlast : [x].map (·.script.source) = [source] := congrArg (fun s => [s]) hxsource
    rw [h.sources_eq] at hsource
    rw [recent_read hu, rtake_atEnd_of_not_mem hsource, ← h.sources_eq, sources, hentries,
      map_rtake, List.map_append, hlast, sources]
  case made =>
    intro e he
    rcases hmem e he with he | rfl
    · exact madeDuring_concat.2 (Or.inl (h.made e he))
    · rw [hxsource]
      exact madeDuring_concat.2 (Or.inr ⟨hu, hmakes⟩)
  case numbered =>
    intro source' y hmade
    rw [hserial]
    rcases madeDuring_concat.1 hmade with hmade | ⟨-, -, hnew⟩
    · exact Nat.lt_succ_of_lt (h.numbered source' y hmade)
    · omega

theorem read (h : Tracks hash capacity uses) (hinj : hash.Injective) {u : Use}
    {source : ByteArray} (hu : u.source? = some source)
    (haction : (u.action? : Option (Action κ)) = some (.read source)) :
    Tracks hash capacity (uses ++ [u]) := by
  by_cases hsource : source ∈ (after hash capacity uses).sources
  · exact h.read_of_mem hinj hu haction hsource
  · exact h.read_of_not_mem hinj hu haction hsource

end Tracks

/-- Whatever was done before, the cache holds what was used last. -/
theorem tracks_after (hash : ByteArray → κ) (hinj : hash.Injective) (capacity : Nat)
    (uses : List Use) : Tracks hash capacity uses := by
  induction uses using List.reverseRecOn with
  | nil => exact .start hash capacity
  | append_singleton uses u ih =>
    rcases Use.read_or_clear_or_none κ u with
      ⟨source, hu, haction⟩ | rfl | ⟨hclear, hu, haction⟩
    · exact ih.read hinj hu haction
    · exact ih.clear
    · exact ih.nothing hclear hu haction

/-- What reading a source gives, from the object of the source: the object, unless there are syntax
errors in its script. -/
def answer (x : Cached κ) : Except CacheError (Cached κ) :=
  match x.script.error? with
  | some e => .error (.invalid e)
  | none => .ok x

theorem read_of_gives {source : ByteArray} {x : Cached κ}
    (h : Gives hash capacity uses source x) :
    ((after hash capacity uses).read hash source).1 = answer x := by
  unfold Gives at h
  rw [Cache.read, answer]
  generalize (after hash capacity uses).fetch hash source = found at h ⊢
  obtain ⟨r, c⟩ := found
  cases h
  dsimp only
  cases x.script.error? <;> rfl

/-- With keys that do not collide, the sources in a cache are the last of those that were read since
everything was forgotten, as many as it has room for, in the order of their last use. Reading a
source gives an object that a use of the same source made earlier exactly if the source is in the
cache, and otherwise makes a new one. -/
theorem keeps_recent (hash : ByteArray → κ) (hinj : hash.Injective) (capacity : Nat)
    (uses : List Use) :
    (after hash capacity uses).sources = (recent uses).rtake capacity ∧
      ∀ source, ∃ x, Gives hash capacity uses source x ∧
        x.script = Script.ofSource source ∧
        ((after hash capacity uses).read hash source).1 = answer x ∧
        (source ∈ (after hash capacity uses).sources ↔ MadeDuring hash capacity uses source x) ∧
        (source ∉ (after hash capacity uses).sources ↔ Makes hash capacity uses source x) := by
  have htracks : Tracks hash capacity uses := tracks_after hash hinj capacity uses
  refine ⟨htracks.sources_eq, fun source => ?_⟩
  obtain ⟨x, c', hfetch, hscript, -⟩ := fetch_spec hash (faithful_after hash capacity uses) source
  have hgives : Gives hash capacity uses source x := congrArg Prod.fst hfetch
  refine ⟨x, hgives, hscript, read_of_gives hgives, ?_⟩
  by_cases hsource : source ∈ (after hash capacity uses).sources
  · obtain ⟨y, hy, hmade, hnew⟩ := htracks.gives_of_mem hinj hsource
    obtain rfl := hgives.unique hy
    exact ⟨iff_of_true hsource hmade, iff_of_false (not_not_intro hsource) hnew⟩
  · obtain ⟨y, hy, hmade⟩ := htracks.makes_of_not_mem hinj hsource
    obtain rfl := hgives.unique hy.1
    exact ⟨iff_of_false hsource hmade, iff_of_true hsource hy⟩

/-- Texts and bytes, with a syntax error, a source that is read twice, and one before everything is
forgotten. -/
def mixedUses : List Use :=
  [.text (lit "x"), .clear, .text (lit "a"), .text (lit "("), .bytes (toBytes [0x61]),
    .text (lit "b")]

/-- The source that is read again is kept, and the one with the syntax error has to go. -/
theorem keeps_recent_mixed :
    Function.Injective (id : ByteArray → ByteArray) ∧
      (after id 2 mixedUses).sources = [toBytes [0x61], toBytes [0x62]] ∧
      (∃ x, Gives id 2 mixedUses (toBytes [0x61]) x ∧
        MadeDuring id 2 mixedUses (toBytes [0x61]) x) ∧
      ∃ x, Makes id 2 mixedUses (toBytes [0x28]) x := by
  obtain ⟨hsources, hobjects⟩ := keeps_recent id Function.injective_id 2 mixedUses
  have hkept : (recent mixedUses).rtake 2 = [toBytes [0x61], toBytes [0x62]] := by decide +kernel
  have hgone : toBytes [0x28] ∉ [toBytes [0x61], toBytes [0x62]] := by
    simp only [List.mem_cons, List.not_mem_nil, or_false]
    decide +kernel
  rw [hkept] at hsources
  obtain ⟨x, hx, -, -, hmade, -⟩ := hobjects (toBytes [0x61])
  obtain ⟨y, -, -, -, -, hnew⟩ := hobjects (toBytes [0x28])
  rw [hsources] at hmade hnew
  exact ⟨Function.injective_id, hsources, ⟨x, hx, hmade.1 List.mem_cons_self⟩, y, hnew.1 hgone⟩

end ScriptDeps.Cache

import ScriptDeps.Cache

namespace ScriptDeps

/-! # The cache is transparent

A cache holds scripts that the parser made, but the script under a key may be that of another
source: keys may collide, and scripts may be put under any key. Reading compares the sources and
looks for syntax errors afterwards, so that it gives what it gives without a cache. Main statements:

* `Faithful`: what holds of a cache at all times;
* `read_spec`: what reading a source gives;
* `run_transparent`: what holds of all actions in a row.
-/

/-- Reading a source gives its script, unless there are syntax errors in it. -/
theorem Script.read_eq_ok {source : ByteArray} {s : Script} :
    Script.read source = .ok s ↔ s = Script.ofSource source ∧ s.error? = none := by
  rw [Script.read, Script.checked]
  cases herror : (Script.ofSource source).error? with
  | some e =>
    constructor
    · intro h
      cases h
    · rintro ⟨rfl, hnone⟩
      rw [herror] at hnone
      cases hnone
  | none =>
    constructor
    · intro h
      cases h
      exact ⟨rfl, herror⟩
    · rintro ⟨rfl, -⟩
      rfl

/-- A source with that tree is read if the tree has no error. -/
theorem Script.read_of_root {source : ByteArray} {root : Syntax.Node}
    (hroot : (Script.ofSource source).root = root) (hvalid : Syntax.error? source root = none) :
    Script.read source = .ok ⟨source, root⟩ := by
  subst hroot
  exact Script.read_eq_ok.2 ⟨rfl, hvalid⟩

namespace Cache

variable {κ : Type}

/-! ## What holds at all times -/

/-- A cache with nothing in it. -/
def empty (capacity : Nat) (enabled : Bool) : Cache κ := { capacity := capacity, enabled }

/-- The cache is not too full, and all its scripts were made by the parser. -/
structure Faithful (capacity : Nat) (c : Cache κ) : Prop where
  capacity_eq : c.capacity = capacity
  bounded : c.size ≤ capacity
  parsed : ∀ e ∈ c.entries, e.script = Script.ofSource e.script.source

variable {capacity : Nat} {c : Cache κ}

theorem Faithful.empty (capacity : Nat) (enabled : Bool) :
    Faithful capacity (Cache.empty capacity enabled : Cache κ) where
  capacity_eq := rfl
  bounded := Nat.zero_le capacity
  parsed := fun _ he => absurd he List.not_mem_nil

theorem Faithful.clear (h : Faithful capacity c) : Faithful capacity c.clear where
  capacity_eq := h.capacity_eq
  bounded := Nat.zero_le capacity
  parsed := fun _ he => absurd he List.not_mem_nil

/-- A cache gives up old scripts until there are few enough. -/
theorem evict_spec (hcapacity : c.capacity = capacity)
    (hparsed : ∀ e ∈ c.entries, e.script = Script.ofSource e.script.source) :
    ∃ c', c.evict = (false, c') ∧ Faithful capacity c' := by
  have hallowed : decide (c.capacity < 0) = false := by
    rw [hcapacity]
    exact decide_eq_false (by omega)
  refine ⟨{ c with entries := c.entries.drop (c.size - c.capacity.toNat) }, ?_, hcapacity, ?_, ?_⟩
  · rw [evict, hallowed]
  · have hlength : (c.entries.drop (c.size - c.capacity.toNat)).length ≤ capacity := by
      rw [List.length_drop, hcapacity, Int.toNat_natCast, size]
      omega
    exact hlength
  · intro e he
    exact hparsed e (List.mem_of_mem_drop he)

section

variable [DecidableEq κ]

theorem size_touch (key : κ) : (c.touch key).size = c.size := by
  have hperm := List.filter_append_perm (fun e : Cached κ => e.key != key) c.entries
  have hother : (fun e : Cached κ => !(e.key != key)) = fun e => e.key == key := by
    funext e
    rw [bne, Bool.not_not]
  rw [hother] at hperm
  exact hperm.length_eq

theorem mem_touch {key : κ} {e : Cached κ} : e ∈ (c.touch key).entries ↔ e ∈ c.entries := by
  rw [touch, List.mem_append, List.mem_filter, List.mem_filter]
  by_cases hkey : e.key = key
  · simp [hkey]
  · simp [hkey]

theorem Faithful.touch (h : Faithful capacity c) (key : κ) : Faithful capacity (c.touch key) where
  capacity_eq := h.capacity_eq
  bounded := by
    rw [size_touch]
    exact h.bounded
  parsed := fun e he => h.parsed e (mem_touch.1 he)

theorem mem_of_mem_store {x e : Cached κ} {es : List (Cached κ)} (h : e ∈ store x es) :
    e = x ∨ e ∈ es := by
  induction es with
  | nil => exact Or.inl (List.mem_singleton.1 h)
  | cons y es ih =>
    rw [store] at h
    split at h
    · rcases List.mem_cons.1 h with rfl | h
      · exact Or.inl rfl
      · exact Or.inr (List.mem_cons_of_mem y h)
    · rcases List.mem_cons.1 h with rfl | h
      · exact Or.inr List.mem_cons_self
      · rcases ih h with rfl | h
        · exact Or.inl rfl
        · exact Or.inr (List.mem_cons_of_mem y h)

/-- Scripts that the parser made can be put into the cache. -/
theorem put_spec (h : Faithful capacity c) {x : Cached κ}
    (hx : x.script = Script.ofSource x.script.source) :
    ∃ c', c.put x = (false, c') ∧ Faithful capacity c' := by
  rw [put]
  split
  · refine evict_spec h.capacity_eq fun e he => ?_
    rcases mem_of_mem_store he with rfl | he
    · exact hx
    · exact h.parsed e he
  · exact ⟨c, rfl, h⟩

/-- A script that was just read can be put into the cache. -/
theorem put_fresh (h : Faithful capacity c) (key : κ) (source : ByteArray) :
    ∃ c', (c.fresh key (Script.ofSource source)).2.put
      (c.fresh key (Script.ofSource source)).1 = (false, c') ∧ Faithful capacity c' := by
  have hcounted : Faithful capacity (c.fresh key (Script.ofSource source)).2 :=
    ⟨h.capacity_eq, h.bounded, h.parsed⟩
  exact put_spec hcounted rfl

/-- What is found in the cache was in it. -/
theorem get_spec (h : Faithful capacity c) (key : κ) :
    Faithful capacity (c.get key).2 ∧ ∀ x, (c.get key).1 = some x → x ∈ c.entries := by
  rw [get]
  split
  · cases hfind : c.find? key with
    | none => exact ⟨h, nofun⟩
    | some x =>
      refine ⟨h.touch key, fun y hy => ?_⟩
      cases hy
      exact List.mem_of_find?_eq_some hfind
  · exact ⟨h, nofun⟩

/-! ## Reading -/

/-- Reading anew gives the script of the source. -/
theorem readAnew_spec (h : Faithful capacity c) (key : κ) (source : ByteArray) :
    ∃ x c', c.readAnew key source = (.ok x, c') ∧ x.script = Script.ofSource source ∧
      Faithful capacity c' := by
  obtain ⟨c', hput, hc'⟩ := put_fresh h key source
  refine ⟨(c.fresh key (Script.ofSource source)).1, c', ?_, rfl, hc'⟩
  simp only [readAnew, hput]

/-- The script that is fetched is that of the source, also if another one stands under its key. -/
theorem fetch_spec (hash : ByteArray → κ) (h : Faithful capacity c) (source : ByteArray) :
    ∃ x c', c.fetch hash source = (.ok x, c') ∧ x.script = Script.ofSource source ∧
      Faithful capacity c' := by
  obtain ⟨hc', hfound⟩ := get_spec h (hash source)
  rw [fetch]
  generalize c.get (hash source) = found at hc' hfound
  obtain ⟨r, c'⟩ := found
  cases r with
  | none => exact readAnew_spec hc' (hash source) source
  | some x =>
    by_cases hsource : x.script.source = source
    · refine ⟨x, c', ?_, ?_, hc'⟩
      · simp only [hsource, if_true]
      · rw [h.parsed x (hfound x rfl), hsource]
    · obtain ⟨y, c'', hread, hy, hc''⟩ := readAnew_spec hc' (hash source) source
      refine ⟨y, c'', ?_, hy, hc''⟩
      simp only [hsource, if_false]
      exact hread

/-! ## Actions -/

/-- Something that is done with a cache. -/
inductive Action (κ : Type) where
  | read (source : ByteArray)
  | clear
  /-- The script of a source is put under any key. -/
  | put (key : κ) (source : ByteArray)

/-- What an action gives; only reading gives a script. -/
abbrev Response := Except CacheError (Option Script)

/-- Does something with a cache. -/
def perform (hash : ByteArray → κ) (c : Cache κ) : Action κ → Response × Cache κ
  | .read source =>
    match c.read hash source with
    | (.ok x, c) => (.ok (some x.script), c)
    | (.error e, c) => (.error e, c)
  | .clear => (.ok none, c.clear)
  | .put key source =>
    let (x, c) := c.fresh key (Script.ofSource source)
    match c.put x with
    | (true, c) => (.error .exhausted, c)
    | (false, c) => (.ok none, c)

/-- Does one thing after the other. -/
def run (hash : ByteArray → κ) (c : Cache κ) : List (Action κ) → List Response × Cache κ
  | [] => ([], c)
  | a :: rest =>
    let (r, c) := c.perform hash a
    let (rs, c) := c.run hash rest
    (r :: rs, c)

/-- What an action gives without a cache. -/
def Action.uncached : Action κ → Response
  | .read source =>
    match Script.read source with
    | .ok s => .ok (some s)
    | .error e => .error (.invalid e)
  | .clear => .ok none
  | .put _ _ => .ok none

/-- Reading a source gives what it gives without a cache. -/
theorem read_spec (hash : ByteArray → κ) (h : Faithful capacity c) (source : ByteArray) :
    (c.perform hash (.read source)).1 = (Action.read source : Action κ).uncached ∧
      Faithful capacity (c.perform hash (.read source)).2 := by
  obtain ⟨x, c', hfetch, hx, hc'⟩ := fetch_spec hash h source
  have hchecked : Script.read source = x.script.checked := (congrArg Script.checked hx).symm
  simp only [perform, read, hfetch, Action.uncached, hchecked, Script.checked]
  cases x.script.error? with
  | none => exact ⟨rfl, hc'⟩
  | some e => exact ⟨rfl, hc'⟩

/-- Every action gives what it gives without a cache. -/
theorem perform_spec (hash : ByteArray → κ) (h : Faithful capacity c) (a : Action κ) :
    (c.perform hash a).1 = a.uncached ∧ Faithful capacity (c.perform hash a).2 := by
  cases a with
  | read source => exact read_spec hash h source
  | clear => exact ⟨rfl, h.clear⟩
  | put key source =>
    obtain ⟨c', hput, hc'⟩ := put_fresh h key source
    simp only [perform, hput]
    exact ⟨rfl, hc'⟩

theorem run_spec (hash : ByteArray → κ) (h : Faithful capacity c) (actions : List (Action κ)) :
    (c.run hash actions).1 = actions.map Action.uncached ∧
      Faithful capacity (c.run hash actions).2 := by
  induction actions generalizing c with
  | nil => exact ⟨rfl, h⟩
  | cons a rest ih =>
    obtain ⟨hresponse, hc'⟩ := perform_spec hash h a
    obtain ⟨hrest, hc''⟩ := ih hc'
    refine ⟨?_, hc''⟩
    rw [run, List.map_cons, ← hresponse, ← hrest]

/-- Whatever is done with a cache that was empty, everything gives what it gives without a cache, and
there are never more scripts in it than its capacity allows. -/
theorem run_transparent (hash : ByteArray → κ) (capacity : Nat) (enabled : Bool)
    (actions : List (Action κ)) :
    ((empty capacity enabled).run hash actions).1 = actions.map Action.uncached ∧
      ∀ n, ((empty capacity enabled).run hash (actions.take n)).2.size ≤ capacity := by
  have hempty : Faithful capacity (empty capacity enabled : Cache κ) := .empty capacity enabled
  constructor
  · exact (run_spec hash hempty actions).1
  · intro n
    exact (run_spec hash hempty (actions.take n)).2.bounded

end

end Cache

end ScriptDeps

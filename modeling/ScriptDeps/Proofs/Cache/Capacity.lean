import ScriptDeps.Proofs.Cache.Recency

namespace ScriptDeps.Cache

open Text (toBytes)

/-! # Caches of any capacity

The capacity of a cache may be any integer. Whatever the keys are and whatever is done, there are
never more scripts in the cache than the capacity allows, and those have to go whose keys were not
used for longest. Nothing but a syntax error keeps a source from being read, unless the capacity is
negative: then even an empty cache is too full, and the reading fails. Main statements:

* `run_bare`: what happens with a negative capacity;
* `Keeps.perform`: which keys are in the cache after one action;
* `keys_reached`: which keys are in it after all actions;
* `run_of_any_capacity`: all of this for every run.
-/

variable {κ : Type}

/-- A cache of that capacity with nothing in it. -/
def ofCapacity (capacity : Int) (enabled : Bool) : Cache κ := { capacity, enabled }

/-- The keys in the cache, those first that were not used for longest. -/
def keys (c : Cache κ) : List κ := c.entries.map (·.key)

theorem size_eq_length_keys (c : Cache κ) : c.size = c.keys.length := by
  rw [keys, List.length_map, size]

theorem mem_keys {c : Cache κ} {key : κ} : key ∈ c.keys ↔ ∃ e ∈ c.entries, e.key = key :=
  List.mem_map

theorem keys_evict (c : Cache κ) : c.evict.2.keys = c.keys.rtake c.capacity.toNat :=
  map_rtake _ _ _

/-- What an action gives with a cache of that capacity. -/
def outcome (capacity : Int) (enabled : Bool) : Action κ → Response
  | .clear => .ok none
  | a => if enabled = true ∧ capacity < 0 then .error .exhausted else a.uncached

/-- If there could be room for scripts, an action gives what it gives without a cache. -/
theorem outcome_of_not {capacity : Int} {enabled : Bool} (h : ¬ (enabled = true ∧ capacity < 0))
    (a : Action κ) : outcome capacity enabled a = a.uncached := by
  cases a with
  | read source => exact if_neg h
  | clear => rfl
  | put key source => exact if_neg h

section

variable [DecidableEq κ] {c : Cache κ} {hash : ByteArray → κ}

/-! ## Caches that can keep nothing -/

/-- A cache with nothing in it. -/
structure Bare (capacity : Int) (enabled : Bool) (c : Cache κ) : Prop where
  capacity_eq : c.capacity = capacity
  enabled_eq : c.enabled = enabled
  entries_eq : c.entries = []

variable {capacity : Int} {enabled : Bool}

theorem Bare.get (h : Bare capacity enabled c) (key : κ) : c.get key = (none, c) := by
  rw [Cache.get]
  split
  · rw [find?, h.entries_eq]
    rfl
  · rfl

/-- With a negative capacity, what is put into the cache has to go at once, and that is not
enough. -/
theorem Bare.put (h : Bare capacity enabled c) (hnone : enabled = true → capacity < 0)
    (x : Cached κ) : ∃ c', c.put x = (enabled, c') ∧ Bare capacity enabled c' := by
  have henabled := h.enabled_eq
  cases enabled with
  | true =>
    have hnegative : c.capacity < 0 := h.capacity_eq ▸ hnone rfl
    -- everything is removed, and the size is still above the capacity
    refine ⟨(evict { c with entries := store x c.entries }).2, ?_, h.capacity_eq, h.enabled_eq, ?_⟩
    · rw [Cache.put, if_pos henabled]
      exact Prod.ext (decide_eq_true hnegative) rfl
    · have hroom : c.capacity.toNat = 0 := Int.toNat_of_nonpos (Int.le_of_lt hnegative)
      simp only [evict, hroom, Nat.sub_zero]
      exact List.drop_length
  | false =>
    refine ⟨c, ?_, h⟩
    rw [Cache.put, henabled]
    rfl

/-- Whatever would keep something fails with a negative capacity, and works if the cache is not
enabled. -/
theorem Bare.perform (h : Bare capacity enabled c) (hnone : enabled = true → capacity < 0)
    (a : Action κ) :
    (c.perform hash a).1 = outcome capacity enabled a ∧
      Bare capacity enabled (c.perform hash a).2 := by
  -- what is put is a fresh script, and the cache stays bare
  have hput : ∀ key source, ∃ c', (c.fresh key (Script.ofSource source)).2.put
      (c.fresh key (Script.ofSource source)).1 = (enabled, c') ∧ Bare capacity enabled c' := by
    intro key source
    have hfresh : Bare capacity enabled (c.fresh key (Script.ofSource source)).2 :=
      ⟨h.capacity_eq, h.enabled_eq, h.entries_eq⟩
    exact hfresh.put hnone _
  cases a with
  | clear => exact ⟨rfl, h.capacity_eq, h.enabled_eq, rfl⟩
  | put key source =>
    obtain ⟨c', hput, hc'⟩ := hput key source
    simp only [Cache.perform, hput, outcome]
    cases enabled with
    | true => exact ⟨(if_pos ⟨rfl, hnone rfl⟩).symm, hc'⟩
    | false => exact ⟨rfl, hc'⟩
  | read source =>
    obtain ⟨c', hput, hc'⟩ := hput (hash source) source
    simp only [Cache.perform, Cache.read, fetch, h.get, readAnew, hput, outcome]
    cases enabled with
    | true => exact ⟨(if_pos ⟨rfl, hnone rfl⟩).symm, hc'⟩
    | false =>
      simp only [Bool.false_eq_true, false_and, if_false, Action.uncached, Script.read,
        Script.checked]
      have hscript : (c.fresh (hash source) (Script.ofSource source)).1.script =
          Script.ofSource source := rfl
      rw [hscript]
      cases (Script.ofSource source).error? with
      | none => exact ⟨rfl, hc'⟩
      | some e => exact ⟨rfl, hc'⟩

theorem run_bare (h : Bare capacity enabled c) (hnone : enabled = true → capacity < 0)
    (actions : List (Action κ)) :
    (c.run hash actions).1 = actions.map (outcome capacity enabled) ∧
      Bare capacity enabled (c.run hash actions).2 := by
  induction actions generalizing c with
  | nil => exact ⟨rfl, h⟩
  | cons a rest ih =>
    obtain ⟨hresponse, hc'⟩ : (c.perform hash a).1 = outcome capacity enabled a ∧
        Bare capacity enabled (c.perform hash a).2 := h.perform hnone a
    obtain ⟨hrest, hc''⟩ := ih hc'
    refine ⟨?_, hc''⟩
    rw [run, List.map_cons, ← hresponse, ← hrest]

/-! ## The keys in the cache -/

/-- The key that was used moves to the end. -/
theorem keys_touch (hnodup : c.keys.Nodup) {key : κ} (hkey : key ∈ c.keys) :
    (c.touch key).keys = atEnd key c.keys := by
  have hothers : (fun e : Cached κ => e.key != key) = (fun k => decide (k ≠ key)) ∘ (·.key) := by
    funext e
    rw [Function.comp_apply, bne, beq_eq_decide, decide_not]
  rw [keys, touch, List.map_append, atEnd, ← filter_eq_singleton hnodup hkey, keys, List.filter_map,
    List.filter_map, hothers]
  rfl

/-- A key that is there keeps its place. -/
theorem keys_store_of_mem {x : Cached κ} {es : List (Cached κ)} (h : x.key ∈ es.map (·.key)) :
    (store x es).map (·.key) = es.map (·.key) := by
  induction es with
  | nil => exact absurd h List.not_mem_nil
  | cons e es ih =>
    rw [store]
    split
    · next heq => rw [List.map_cons, List.map_cons, heq]
    · next hne =>
      rcases List.mem_cons.1 h with heq | h
      · exact absurd heq.symm hne
      · rw [List.map_cons, List.map_cons, ih h]

/-- A key that is there keeps its place, and any other one is added at the end. -/
theorem keys_put (henabled : c.enabled = true) (x : Cached κ) :
    (c.put x).2.keys =
      (if x.key ∈ c.keys then c.keys else c.keys ++ [x.key]).rtake c.capacity.toNat := by
  rw [put, if_pos henabled, keys_evict]
  split
  · next hmem => exact congrArg (List.rtake · _) (keys_store_of_mem hmem)
  · next hmem =>
    have hnew : ∀ e ∈ c.entries, e.key ≠ x.key := fun e he heq => hmem (mem_keys.2 ⟨e, he, heq⟩)
    rw [keys, store_of_new hnew, List.map_append]
    rfl

theorem put_enabled (x : Cached κ) : (c.put x).2.enabled = c.enabled := by
  rw [put]
  split <;> rfl

theorem put_capacity (x : Cached κ) : (c.put x).2.capacity = c.capacity := by
  rw [put]
  split <;> rfl

theorem find?_of_mem_keys {key : κ} (h : key ∈ c.keys) : ∃ x, c.find? key = some x := by
  obtain ⟨e, he, hkey⟩ := mem_keys.1 h
  exact Option.isSome_iff_exists.1 (List.find?_isSome.2 ⟨e, he, by simpa using hkey⟩)

theorem find?_of_not_mem_keys {key : κ} (h : key ∉ c.keys) : c.find? key = none :=
  List.find?_eq_none.2 fun e he heq => h (mem_keys.2 ⟨e, he, by simpa using heq⟩)

theorem perform_put (key : κ) (source : ByteArray) :
    (c.perform hash (.put key source)).2 =
      ((c.fresh key (Script.ofSource source)).2.put
        (c.fresh key (Script.ofSource source)).1).2 := by
  rw [perform]
  obtain ⟨x, c'⟩ := c.fresh key (Script.ofSource source)
  dsimp only
  rcases c'.put x with ⟨full | _, c''⟩ <;> rfl

/-- Whether or not it can be kept, a script that is read anew is put into the cache. -/
theorem readAnew_snd (key : κ) (source : ByteArray) :
    (c.readAnew key source).2 =
      ((c.fresh key (Script.ofSource source)).2.put
        (c.fresh key (Script.ofSource source)).1).2 := by
  rw [readAnew]
  obtain ⟨x, c'⟩ := c.fresh key (Script.ofSource source)
  dsimp only
  rcases c'.put x with ⟨full | _, c''⟩ <;> rfl

/-- What was used, those first that were not used for longest. A script that is put under a key in
the cache takes the place of the one that is there. -/
def noteUse (hash : ByteArray → κ) (capacity : Nat) (used : List κ) : Action κ → List κ
  | .read source => used ++ [hash source]
  | .clear => []
  | .put key _ => if key ∈ used.dedup.rtake capacity then used else used ++ [key]

/-- The keys that were used since everything was forgotten. -/
def usedKeys (hash : ByteArray → κ) (capacity : Nat) (actions : List (Action κ)) : List κ :=
  actions.foldl (noteUse hash capacity) []

/-- An enabled cache keeps the scripts whose keys were used last, as many as it has room for. -/
structure Keeps (capacity : Int) (used : List κ) (c : Cache κ) : Prop where
  enabled_eq : c.enabled = true
  capacity_eq : c.capacity = capacity
  keys_eq : c.keys = used.dedup.rtake capacity.toNat

namespace Keeps

variable {used : List κ}

theorem nodup (h : Keeps capacity used c) : c.keys.Nodup := by
  rw [h.keys_eq]
  exact (List.nodup_dedup used).sublist (List.drop_sublist _ _)

theorem length_le (h : Keeps capacity used c) : c.keys.length ≤ capacity.toNat := by
  obtain ⟨-, -, -, hbound⟩ := exists_rtake capacity.toNat used.dedup
  rw [h.keys_eq]
  exact hbound

/-- A key that is there stays where it is. -/
theorem put_of_mem (h : Keeps capacity used c) {x : Cached κ} (hx : x.key ∈ c.keys) :
    Keeps capacity used (c.put x).2 where
  enabled_eq := (put_enabled x).trans h.enabled_eq
  capacity_eq := (put_capacity x).trans h.capacity_eq
  keys_eq := by
    have hall : c.keys.length - capacity.toNat = 0 := Nat.sub_eq_zero_of_le h.length_le
    rw [keys_put h.enabled_eq, if_pos hx, h.capacity_eq, List.rtake, hall, List.drop_zero,
      h.keys_eq]

/-- A new key was used last, and what was not used for longest has to go if there is no room. -/
theorem put_of_not_mem (h : Keeps capacity used c) {x : Cached κ} (hx : x.key ∉ c.keys) :
    Keeps capacity (used ++ [x.key]) (c.put x).2 where
  enabled_eq := (put_enabled x).trans h.enabled_eq
  capacity_eq := (put_capacity x).trans h.capacity_eq
  keys_eq := by
    rw [keys_put h.enabled_eq, if_neg hx, h.capacity_eq]
    rw [h.keys_eq] at hx ⊢
    rw [dedup_concat, rtake_atEnd_of_not_mem hx]

/-- A key that is found was used last. -/
theorem touch (h : Keeps capacity used c) {key : κ} (hkey : key ∈ c.keys) :
    Keeps capacity (used ++ [key]) (c.touch key) where
  enabled_eq := h.enabled_eq
  capacity_eq := h.capacity_eq
  keys_eq := by
    rw [keys_touch h.nodup hkey]
    rw [h.keys_eq] at hkey ⊢
    rw [dedup_concat, rtake_atEnd_of_mem (List.nodup_dedup used) hkey]

/-- A script that was just read is put into the cache. -/
theorem putFresh (h : Keeps capacity used c) (key : κ) (source : ByteArray) :
    Keeps capacity (if key ∈ c.keys then used else used ++ [key])
      ((c.fresh key (Script.ofSource source)).2.put
        (c.fresh key (Script.ofSource source)).1).2 := by
  have hfresh : Keeps capacity used (c.fresh key (Script.ofSource source)).2 :=
    ⟨h.enabled_eq, h.capacity_eq, h.keys_eq⟩
  split
  · next hkey => exact hfresh.put_of_mem hkey
  · next hkey => exact hfresh.put_of_not_mem (x := (c.fresh key (Script.ofSource source)).1) hkey

/-- Reading a source uses its key, also if the script under the key is that of another source. -/
theorem fetch (h : Keeps capacity used c) (source : ByteArray) :
    Keeps capacity (used ++ [hash source]) (c.fetch hash source).2 := by
  by_cases hkey : hash source ∈ c.keys
  · obtain ⟨x, hfind⟩ := find?_of_mem_keys hkey
    have htouch : Keeps capacity (used ++ [hash source]) (c.touch (hash source)) := h.touch hkey
    have hstill : hash source ∈ (c.touch (hash source)).keys := by
      rw [keys_touch h.nodup hkey]
      exact List.mem_append_right _ (List.mem_singleton_self _)
    simp only [Cache.fetch, get, h.enabled_eq, hfind, if_true]
    split
    · exact htouch
    · -- the script of another source is replaced where it stands, which by now is the end
      have hput := htouch.putFresh (hash source) source
      rwa [if_pos hstill, ← readAnew_snd] at hput
  · simp only [Cache.fetch, get, h.enabled_eq, find?_of_not_mem_keys hkey, if_true]
    have hput := h.putFresh (hash source) source
    rwa [if_neg hkey, ← readAnew_snd] at hput

/-- What one action does to the keys. -/
theorem perform (h : Keeps capacity used c) (a : Action κ) :
    Keeps capacity (noteUse hash capacity.toNat used a) (c.perform hash a).2 := by
  cases a with
  | read source =>
    rw [perform_read]
    exact h.fetch source
  | clear => exact ⟨h.enabled_eq, h.capacity_eq, (List.rtake_nil _).symm⟩
  | put key source =>
    rw [perform_put, noteUse, ← h.keys_eq]
    exact h.putFresh key source

end Keeps

/-- The cache after everything that was done to it since it was empty. -/
def reached (hash : ByteArray → κ) (capacity : Int) (enabled : Bool) (actions : List (Action κ)) :
    Cache κ :=
  ((ofCapacity capacity enabled).run hash actions).2

theorem reached_concat (actions : List (Action κ)) (a : Action κ) :
    reached hash capacity enabled (actions ++ [a]) =
      ((reached hash capacity enabled actions).perform hash a).2 :=
  run_concat hash _ actions a

theorem usedKeys_concat {room : Nat} (actions : List (Action κ)) (a : Action κ) :
    usedKeys hash room (actions ++ [a]) = noteUse hash room (usedKeys hash room actions) a := by
  rw [usedKeys, List.foldl_append]
  rfl

/-- An enabled cache keeps what was used last, whatever its capacity is. -/
theorem keeps_reached (hash : ByteArray → κ) (capacity : Int) (actions : List (Action κ)) :
    Keeps capacity (usedKeys hash capacity.toNat actions) (reached hash capacity true actions) := by
  -- the use of a key counts from the last action back, so the run is extended at its end
  induction actions using List.reverseRecOn with
  | nil => exact ⟨rfl, rfl, (List.rtake_nil _).symm⟩
  | append_singleton actions a ih =>
    rw [reached_concat, usedKeys_concat]
    exact ih.perform a

/-- A cache that is not enabled keeps nothing. -/
theorem bare_reached (hash : ByteArray → κ) (capacity : Int) (actions : List (Action κ)) :
    Bare capacity false (reached hash capacity false actions) := by
  have hstart : Bare capacity false (ofCapacity capacity false : Cache κ) := ⟨rfl, rfl, rfl⟩
  exact (run_bare hstart nofun actions).2

theorem keys_reached (hash : ByteArray → κ) (capacity : Int) (enabled : Bool)
    (actions : List (Action κ)) :
    (reached hash capacity enabled actions).keys =
      if enabled then (usedKeys hash capacity.toNat actions).dedup.rtake capacity.toNat
      else [] := by
  cases enabled with
  | true => exact (keeps_reached hash capacity actions).keys_eq
  | false => exact congrArg (List.map (·.key)) (bare_reached hash capacity actions).entries_eq

/-- What an action gives does not depend on what was done before. -/
theorem responses_run (hash : ByteArray → κ) (capacity : Int) (enabled : Bool)
    (actions : List (Action κ)) :
    ((ofCapacity capacity enabled).run hash actions).1 =
      actions.map (outcome capacity enabled) := by
  have hbare : Bare capacity enabled (ofCapacity capacity enabled : Cache κ) := ⟨rfl, rfl, rfl⟩
  -- a cache that can keep nothing stays bare; any other one answers as if there were none
  by_cases hnone : enabled = true → capacity < 0
  · exact (run_bare hbare hnone actions).1
  · have henabled : enabled = true := (Classical.not_imp.1 hnone).1
    obtain ⟨room, rfl⟩ := Int.eq_ofNat_of_zero_le (Int.not_lt.1 (Classical.not_imp.1 hnone).2)
    have huncached : ∀ a : Action κ, outcome room enabled a = a.uncached :=
      outcome_of_not fun h => Classical.not_imp.1 hnone |>.2 h.2
    rw [funext huncached]
    exact (run_spec hash (.empty room enabled) actions).1

/-- What was used before is still known after another action, unless everything is forgotten. -/
theorem mem_usedKeys_concat {room : Nat} {actions : List (Action κ)} {a : Action κ}
    (ha : a ≠ .clear) {key : κ} (hkey : key ∈ usedKeys hash room actions) :
    key ∈ usedKeys hash room (actions ++ [a]) := by
  rw [usedKeys_concat]
  cases a with
  | read source => exact List.mem_append_left _ hkey
  | clear => exact absurd rfl ha
  | put key' source =>
    rw [noteUse]
    split
    · exact hkey
    · exact List.mem_append_left _ hkey

/-- Whatever is not among the last items stands before each of them. -/
theorem pair_sublist_of_rtake {α : Type} {l : List α} {k : Nat} {a b : α} (ha : a ∈ l)
    (hgone : a ∉ l.rtake k) (hb : b ∈ l.rtake k) : [a, b].Sublist l := by
  obtain ⟨before, hsplit, -⟩ := exists_rtake k l
  rw [hsplit] at ha ⊢
  have hbefore : a ∈ before := (List.mem_append.1 ha).resolve_right hgone
  exact (List.singleton_sublist.2 hbefore).append (List.singleton_sublist.2 hb)

/-- What has to go was not used for longer than anything that is kept. -/
theorem gone_before_kept {actions : List (Action κ)} {a : Action κ} (ha : a ≠ .clear)
    {gone kept : κ} (hbefore : gone ∈ (reached hash capacity enabled actions).keys)
    (hgone : gone ∉ (reached hash capacity enabled (actions ++ [a])).keys)
    (hkept : kept ∈ (reached hash capacity enabled (actions ++ [a])).keys) :
    [gone, kept].Sublist (usedKeys hash capacity.toNat (actions ++ [a])).dedup := by
  rw [keys_reached] at hbefore hgone hkept
  cases enabled with
  | false => exact absurd hkept List.not_mem_nil
  | true =>
    have hused : gone ∈ usedKeys hash capacity.toNat actions :=
      List.mem_dedup.1 (List.mem_of_mem_drop hbefore)
    exact pair_sublist_of_rtake (List.mem_dedup.2 (mem_usedKeys_concat ha hused)) hgone hkept

/-- Two sources, of which the first one is read again. -/
def threeReads : List (Action ByteArray) :=
  [.read (toBytes [0x61]), .read (toBytes [0x62]), .read (toBytes [0x61])]

end

end ScriptDeps.Cache

import ScriptDeps.Dependency
import ScriptDeps.Proofs.Gather
import ScriptDeps.Proofs.Module.Catalog

namespace ScriptDeps

open ScriptDeps.Module (Catalog Resolved Specifier atSign nativeVersion resolve separator?)

/-! # What a catalog decides

A script asks a catalog only for the specifiers of its static calls in which no `@` stands behind
the first code point, and the catalog answers with the version that such a module resolves to.
Catalogs that answer these alike lead to the same dependencies, and nothing else in the dependencies
comes from the catalog. Main statements:

* `ofText_of_separated`: what a specifier with an `@` is taken for;
* `Script.dependencies_of_agree`: catalogs that give the same answers lead to the same dependencies;
* `catalog_decides`: what the catalog decides, for scripts and for sources.
-/

namespace Module

/-! ## Specifiers -/

/-- The first `@` behind the first code point of the specifier stands one code point behind
`front`. -/
def Separated (spec front : Text) : Prop :=
  ∃ last rest, spec = front ++ last :: atSign :: rest ∧ atSign ∉ (front ++ [last]).drop 1

theorem separator?_eq_none_iff {spec : Text} : separator? spec = none ↔ atSign ∉ spec.drop 1 := by
  rw [separator?, Option.map_eq_none_iff, List.findIdx?_eq_none_iff]
  constructor
  · intro h hmem
    simpa using h atSign hmem
  · intro h x hx
    simpa using fun heq : x = atSign => h (heq ▸ hx)

theorem separator?_of_separated {spec front : Text} (h : Separated spec front) :
    separator? spec = some (front.length + 1) := by
  obtain ⟨last, rest, rfl, hbefore⟩ := h
  have hdrop : (front ++ last :: atSign :: rest).drop 1 =
      (front ++ [last]).drop 1 ++ atSign :: rest := by
    rw [← List.drop_append_of_le_length (by simp)]
    simp
  have hnone : ((front ++ [last]).drop 1).findIdx? (· == atSign) = none := by
    rw [List.findIdx?_eq_none_iff]
    intro x hx
    simpa using fun heq : x = atSign => hbefore (heq ▸ hx)
  rw [separator?, hdrop, List.findIdx?_append, hnone]
  simp [List.findIdx?_cons]

/-- A specifier without such an `@` is a name. -/
theorem ofText_of_bare {spec : Text} (h : atSign ∉ spec.drop 1) :
    Specifier.ofText spec = ⟨spec, none⟩ := by
  rw [Specifier.ofText, separator?_eq_none_iff.2 h]

/-- The name in any other ends one code point before that `@`, and the version is empty. -/
theorem ofText_of_separated {spec front : Text} (h : Separated spec front) :
    Specifier.ofText spec = ⟨front, some []⟩ := by
  rw [Specifier.ofText, separator?_of_separated h]
  obtain ⟨last, rest, rfl, -⟩ := h
  simp

example : Specifier.ofText (Text.lit "lodash@4.17.4") = ⟨Text.lit "lodas", some []⟩ := by decide

/-- Every specifier is of one of the two sorts. -/
theorem exists_separated {spec : Text} (h : atSign ∈ spec.drop 1) :
    ∃ front, Separated spec front := by
  obtain ⟨before, rest, hsplit, hbefore⟩ := List.eq_append_cons_of_mem h
  cases spec with
  | nil => cases h
  | cons first others =>
    have hwhole : first :: others = first :: before ++ atSign :: rest := by
      rw [List.drop_one, List.tail_cons] at hsplit
      rw [hsplit, List.cons_append]
    -- what stands before the `@` is not empty, so it has a last code point
    have hlast := List.dropLast_append_getLast (List.cons_ne_nil first before)
    generalize (first :: before).getLast (List.cons_ne_nil first before) = last at hlast
    refine ⟨(first :: before).dropLast, last, rest, ?_, ?_⟩
    · rw [hwhole, ← hlast, List.append_assoc, List.singleton_append, hlast]
    · rw [hlast]
      exact hbefore

/-! ## Answers -/

namespace Catalog

/-- Two catalogs give the same answer to a name. -/
structure AgreeOn (c d : Catalog) (name : Text) : Prop where
  native : c.isNative name = d.isNative name
  preferred : c.isNative name = false → c.preferredVersion? name = d.preferredVersion? name

/-- The version that a catalog answers a name with. -/
def answer (c : Catalog) (name : Text) : Option Text :=
  if c.isNative name then some nativeVersion else c.preferredVersion? name

theorem AgreeOn.answer {c d : Catalog} {name : Text} (h : c.AgreeOn d name) :
    c.answer name = d.answer name := by
  rw [Catalog.answer, Catalog.answer, ← h.native]
  cases hnative : c.isNative name with
  | true => rfl
  | false => rw [h.preferred hnative]

end Catalog

/-- A name resolves to the answer of the catalog. -/
theorem resolve_of_bare (c : Catalog) {spec : Text} (h : atSign ∉ spec.drop 1) :
    resolve c (.ofText spec) = ⟨spec, c.answer spec⟩ := by
  rw [ofText_of_bare h, resolve, Catalog.answer]
  cases c.isNative spec <;> rfl

/-- Any other specifier resolves without the catalog. -/
theorem resolve_of_separated (c : Catalog) {spec front : Text} (h : Separated spec front) :
    resolve c (.ofText spec) = ⟨front, some []⟩ := by
  rw [ofText_of_separated h, resolve]

theorem resolve_of_agree {c d : Catalog} {spec : Text}
    (h : atSign ∉ spec.drop 1 → c.AgreeOn d spec) :
    resolve c (.ofText spec) = resolve d (.ofText spec) := by
  by_cases hat : atSign ∈ spec.drop 1
  · obtain ⟨front, hfront⟩ := exists_separated hat
    rw [resolve_of_separated c hfront, resolve_of_separated d hfront]
  · rw [resolve_of_bare c hat, resolve_of_bare d hat, (h hat).answer]

/-- Two listings give the same answer to a name that both list as a module, or that neither does if
the first of its versions is the same. -/
theorem agreeOn_of_listed {names names' : List Text} {packages packages' : List (Text × List Text)}
    {name : Text} (hnames : name ∈ names ↔ name ∈ names')
    (hfirst : name ∉ names →
      ((packages.lookup name).getD []).head? = ((packages'.lookup name).getD []).head?) :
    Catalog.AgreeOn ⟨NameSet.ofList names, packages⟩ ⟨NameSet.ofList names', packages'⟩ name where
  native := by
    rw [Catalog.isNative, Catalog.isNative, contains_ofList, contains_ofList]
    exact decide_eq_decide.2 hnames
  preferred := by
    intro hnative
    rw [Catalog.isNative, contains_ofList] at hnative
    exact hfirst (of_decide_eq_false hnative)

end Module

/-! ## What is asked -/

/-- The script asks the catalog for the name. -/
def Script.Asks (s : Script) (name : Text) : Prop :=
  ∃ cs, s.calls = .ok cs ∧ ∃ c ∈ cs, c.dynamic = false ∧ c.spec = name ∧ atSign ∉ name.drop 1

/-- The script that is read from the source does. -/
def Asks (source : ByteArray) (name : Text) : Prop :=
  ∃ s, Script.read source = .ok s ∧ s.Asks name

namespace Dependency

/-- A dependency without what a module resolves to. -/
def unresolved : Dependency → Dependency
  | .module spec start stop _ => .module spec start stop ⟨[], none⟩
  | d => d

theorem unresolved_ofCall (a b : Catalog) (c : Require.Call) :
    (ofCall a c).unresolved = (ofCall b c).unresolved := by
  rw [ofCall, ofCall]
  cases c.dynamic <;> rfl

theorem ofCall_of_agree {a b : Catalog} {c : Require.Call}
    (h : c.dynamic = false → atSign ∉ c.spec.drop 1 → a.AgreeOn b c.spec) :
    ofCall a c = ofCall b c := by
  rw [ofCall, ofCall]
  cases hdynamic : c.dynamic with
  | true => rfl
  | false => rw [Module.resolve_of_agree (h hdynamic)]

theorem resolved_of_ofCall {catalog : Catalog} {c : Require.Call} {spec : Text}
    {start stop : Nat} {r : Resolved} (h : ofCall catalog c = .module spec start stop r) :
    r = resolve catalog (.ofText spec) := by
  rw [ofCall] at h
  cases hdynamic : c.dynamic with
  | true =>
    rw [hdynamic] at h
    cases h
  | false =>
    rw [hdynamic] at h
    cases h
    rfl

end Dependency

/-! ## Dependencies -/

section

variable {s : Script} {c d : Catalog}

theorem Script.dependencies_eq_ok {ds : List Dependency} :
    s.dependencies c = .ok ds ↔ ∃ cs rs, s.calls = .ok cs ∧ s.freeReferences = .ok rs ∧
      ds = cs.map (.ofCall c) ++ rs.map .ofReference := by
  constructor
  · intro h
    obtain ⟨cs, hcs, h⟩ := andThen_ok_iff.1 h
    obtain ⟨rs, hrs, h⟩ := andThen_ok_iff.1 h
    cases h
    exact ⟨cs, rs, hcs, hrs, rfl⟩
  · rintro ⟨cs, rs, hcs, hrs, rfl⟩
    exact andThen_ok_iff.2 ⟨cs, hcs, andThen_ok_iff.2 ⟨rs, hrs, rfl⟩⟩

/-- What can be said of the dependencies of a call carries over to all dependencies of a script. -/
theorem Script.map_dependencies {f : Dependency → Dependency}
    (h : ∀ cs, s.calls = .ok cs → ∀ x ∈ cs, f (.ofCall c x) = f (.ofCall d x)) :
    (s.dependencies c).map (List.map f) = (s.dependencies d).map (List.map f) := by
  rw [Script.dependencies, Script.dependencies]
  cases hcs : s.calls with
  | error e => rfl
  | ok cs =>
    have hcalls : (cs.map (Dependency.ofCall c)).map f = (cs.map (Dependency.ofCall d)).map f := by
      rw [List.map_map, List.map_map]
      exact List.map_congr_left (h cs hcs)
    cases s.freeReferences with
    | error e => rfl
    | ok rs => simp only [bind, Except.bind, pure, Except.pure, Except.map, List.map_append, hcalls]

/-- Catalogs that give the same answers lead to the same dependencies. -/
theorem Script.dependencies_of_agree (h : ∀ name, s.Asks name → c.AgreeOn d name) :
    s.dependencies c = s.dependencies d := by
  have hcall : ∀ cs, s.calls = .ok cs → ∀ x ∈ cs,
      id (Dependency.ofCall c x) = id (Dependency.ofCall d x) := by
    intro cs hcs x hx
    refine Dependency.ofCall_of_agree fun hstatic hbare => ?_
    exact h x.spec ⟨cs, hcs, x, hx, hstatic, rfl, hbare⟩
  have hmap := Script.map_dependencies hcall
  simpa using hmap

theorem Script.resolved_of_mem {ds : List Dependency} (hds : s.dependencies c = .ok ds)
    {spec : Text} {start stop : Nat} {r : Resolved} (hmem : .module spec start stop r ∈ ds) :
    r = resolve c (.ofText spec) := by
  obtain ⟨cs, rs, -, -, rfl⟩ := Script.dependencies_eq_ok.1 hds
  rcases List.mem_append.1 hmem with hcall | hreference
  · obtain ⟨x, -, hx⟩ := List.mem_map.1 hcall
    exact Dependency.resolved_of_ofCall hx
  · obtain ⟨x, -, hx⟩ := List.mem_map.1 hreference
    cases hx

end

/-! ## The result -/

/-- What a catalog decides of the dependencies that are found against it, if these names are asked
for. -/
structure Decides {ε : Type} (asked : Text → Prop) (found : Catalog → Except ε (List Dependency)) :
    Prop where
  /-- Only the answers to the names that are asked for count. -/
  same : ∀ c d, (∀ name, asked name → c.AgreeOn d name) → found c = found d
  /-- Nothing but what modules resolve to comes from the catalog. -/
  shape : ∀ c d, (found c).map (List.map Dependency.unresolved) =
    (found d).map (List.map Dependency.unresolved)
  /-- Of a listing, it counts which names it has, and the first version of a name that is asked
  for. -/
  listed : ∀ names names' packages packages', (∀ name, name ∈ names ↔ name ∈ names') →
    (∀ name, asked name → name ∉ names →
      ((packages.lookup name).getD []).head? = ((packages'.lookup name).getD []).head?) →
    ∃ c d, Catalog.ofJson (Module.listing names packages) = .ok c ∧
      Catalog.ofJson (Module.listing names' packages') = .ok d ∧ found c = found d
  /-- A specifier without an `@` behind its first code point resolves to the answer. -/
  bare : ∀ c ds, found c = .ok ds → ∀ spec start stop r, .module spec start stop r ∈ ds →
    atSign ∉ spec.drop 1 → r = ⟨spec, c.answer spec⟩
  /-- Any other ends one code point before the first such `@`, and the version is empty. -/
  separated : ∀ c ds, found c = .ok ds → ∀ spec start stop r front,
    .module spec start stop r ∈ ds → Module.Separated spec front → r = ⟨front, some []⟩

theorem Script.decides (s : Script) : Decides s.Asks s.dependencies where
  same := fun c d h => Script.dependencies_of_agree h
  shape := by
    intro c d
    exact Script.map_dependencies fun cs _ x _ => Dependency.unresolved_ofCall c d x
  listed := by
    intro names names' packages packages' hnames hfirst
    refine ⟨_, _, Module.ofJson_listing names packages, Module.ofJson_listing names' packages', ?_⟩
    exact Script.dependencies_of_agree fun name hasked =>
      Module.agreeOn_of_listed (hnames name) (hfirst name hasked)
  bare := by
    intro c ds hds spec start stop r hmem hbare
    rw [Script.resolved_of_mem hds hmem, Module.resolve_of_bare c hbare]
  separated := by
    intro c ds hds spec start stop r front hmem hfront
    rw [Script.resolved_of_mem hds hmem, Module.resolve_of_separated c hfront]

/-- It does not matter what failures are called. -/
theorem Decides.mapError {ε δ : Type} {asked : Text → Prop}
    {found : Catalog → Except ε (List Dependency)} (h : Decides asked found) (g : ε → δ) :
    Decides asked fun c => (found c).mapError g where
  same := fun c d hagree => congrArg (Except.mapError g) (h.same c d hagree)
  shape := by
    intro c d
    rw [map_mapError, map_mapError, h.shape c d]
  listed := by
    intro names names' packages packages' hnames hfirst
    obtain ⟨c, d, hc, hd, heq⟩ := h.listed names names' packages packages' hnames hfirst
    exact ⟨c, d, hc, hd, congrArg (Except.mapError g) heq⟩
  bare := fun c ds hds => h.bare c ds (mapError_eq_ok.1 hds)
  separated := fun c ds hds => h.separated c ds (mapError_eq_ok.1 hds)

/-- A source with a syntax error asks for nothing. -/
theorem Decides.of_error {ε : Type} (asked : Text → Prop) (e : ε) :
    Decides asked fun _ : Catalog => (.error e : Except ε (List Dependency)) where
  same := fun _ _ _ => rfl
  shape := fun _ _ => rfl
  listed := by
    intro names names' packages packages' _ _
    exact ⟨_, _, Module.ofJson_listing names packages, Module.ofJson_listing names' packages', rfl⟩
  bare := nofun
  separated := nofun

theorem dependencies_of_read {source : ByteArray} {s : Script} (h : Script.read source = .ok s) :
    dependencies source = fun c => (s.dependencies c).mapError .unreadable := by
  funext c
  unfold dependencies
  rw [h]
  dsimp only
  cases s.dependencies c <;> rfl

theorem asks_of_read {source : ByteArray} {s : Script} (h : Script.read source = .ok s) :
    Asks source = s.Asks := by
  funext name
  refine propext ⟨?_, fun hasks => ⟨s, h, hasks⟩⟩
  rintro ⟨t, ht, hasks⟩
  rw [h] at ht
  cases ht
  exact hasks

theorem decides_source (source : ByteArray) : Decides (Asks source) (dependencies source) := by
  cases hread : Script.read source with
  | error e =>
    have hfails : dependencies source = fun _ => .error (.invalid e) := by
      funext c
      unfold dependencies
      rw [hread]
    rw [hfails]
    exact .of_error _ _
  | ok s =>
    rw [asks_of_read hread, dependencies_of_read hread]
    exact s.decides.mapError _

end ScriptDeps

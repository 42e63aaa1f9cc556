import ScriptDeps.Proofs.Require.Callee

namespace ScriptDeps

open Require (Call CallsClose CallsOpen IsCall bounds_of_reports callPlaces callPlaces_in_order
  exists_callee exists_end_of_isCall mem_callPlaces reports_of_calls)
open Scope (IsFree IsTree Reference mem_freeReferences starts_differ)
open Syntax (Node bytes_of_text)
open Text (bytesBetween bytesBetween_append encode lit)

/-! # Where the dependencies of a script stand

The modules come before the names, each list in its own order. Every dependency stands within the
source: a name where its bytes are, and a module from `require` to the parenthesis behind the
arguments. Of one kind, no two stand at the same place. Main statements:

* `bytes_of_isCall`: the bytes of a call;
* `bytes_of_mem_references`: the bytes of a free reference;
* `stops_in_order`: calls have different spans;
* `dependencies_located`: the dependencies of a source as a whole.
-/

/-! ## Dependencies and their spans -/

namespace Dependency

/-- The three kinds of dependencies. -/
inductive Kind where
  | module
  | dynamic
  | free
deriving DecidableEq, Repr

/-- The kind of a dependency. -/
def kind : Dependency → Kind
  | .module .. => .module
  | .dynamic .. => .dynamic
  | .free .. => .free

/-- What a dependency is called in the script. -/
def spec : Dependency → Text
  | .module spec .. => spec
  | .dynamic spec .. => spec
  | .free name .. => name

/-- Where a dependency starts. -/
def start : Dependency → Nat
  | .module _ start .. => start
  | .dynamic _ start _ => start
  | .free _ start .. => start

/-- Where a dependency stops. -/
def stop : Dependency → Nat
  | .module _ _ stop _ => stop
  | .dynamic _ _ stop => stop
  | .free _ _ stop _ => stop

/-- The dependency is the call. -/
structure IsOfCall (c : Call) (d : Dependency) : Prop where
  kind : d.kind = if c.dynamic then .dynamic else .module
  spec : d.spec = c.spec
  start : d.start = c.start
  stop : d.stop = c.stop

/-- The dependency is the reference. -/
structure IsOfReference (r : Reference) (d : Dependency) : Prop where
  kind : d.kind = .free
  spec : d.spec = r.name
  start : d.start = r.start
  stop : d.stop = r.stop

theorem IsOfCall.ofCall (catalog : Module.Catalog) (c : Call) :
    IsOfCall c (.ofCall catalog c) := by
  rw [Dependency.ofCall]
  split
  · next hdynamic => exact ⟨by rw [hdynamic]; rfl, rfl, rfl, rfl⟩
  · next hstatic => exact ⟨by rw [if_neg hstatic]; rfl, rfl, rfl, rfl⟩

theorem IsOfReference.ofReference (r : Reference) : IsOfReference r (.ofReference r) :=
  ⟨rfl, rfl, rfl, rfl⟩

theorem IsOfCall.not_free {c : Call} {d : Dependency} (h : IsOfCall c d) : d.kind ≠ .free := by
  rw [h.kind]
  split <;> decide

end Dependency

/-! ## Bytes -/

/-- The bytes of a span go from `require` to a closing parenthesis. -/
def SpellsCall (source : ByteArray) (start stop : Nat) : Prop :=
  ∃ inside, bytesBetween source start stop = encode (lit "require") ++ inside ++ encode (lit ")")

/-- Nodes of the kind of a closing parenthesis are spelled so. -/
def ClosersSpelled (source : ByteArray) (root : Node) : Prop :=
  ∀ up p, root.Occurs up p → p.kind = ")" → p.text source = .ok (lit ")")

instance (source : ByteArray) (root : Node) : Decidable (ClosersSpelled source root) := by
  unfold ClosersSpelled
  infer_instance

section

variable {source : ByteArray} {root : Node}

/-- A call goes from `require` to a closing parenthesis. -/
theorem bytes_of_isCall (tree : IsTree root) (hwithin : root.stop ≤ source.size)
    (opened : CallsOpen root) (close : CallsClose root) (spelled : ClosersSpelled source root)
    {up : List Node} {n : Node} (hn : root.Occurs up n) (hcall : IsCall source n) :
    n.start < n.stop ∧ n.stop ≤ source.size ∧ SpellsCall source n.start n.stop := by
  obtain ⟨callee, hcalls, hcallee, hname, hstart, hstop⟩ :=
    exists_callee tree hwithin opened hn hcall
  obtain ⟨list, p, hkind, hlast, hp, hparenthesis, -, hnonempty, hend⟩ :=
    exists_end_of_isCall close hn hcall
  have hlist : root.Occurs (n :: up) list := hn.child (List.mem_of_getLast? hlast)
  have hpoccurs : root.Occurs (list :: n :: up) p := hlist.child (List.mem_of_getLast? hp)
  -- the arguments stand behind what is called
  have hbefore : callee.stop ≤ p.start := by
    have hinside := (tree.nested _ _ hlist).inside p (List.mem_of_getLast? hp)
    rcases (tree.nested _ _ hn).eq_last_or_before hcallee.mem_children hlast with heq | hapart
    · rw [← heq, hcalls.2.2] at hkind
      exact absurd hkind (by decide)
    · omega
  have hsize := tree.nested.inside hn
  refine ⟨by omega, by omega, bytesBetween source callee.stop p.start, ?_⟩
  have hfirst := bytes_of_text hname
  have hlastBytes := bytes_of_text (spelled _ p hpoccurs hparenthesis)
  rw [hstart] at hfirst
  rw [hend] at hlastBytes
  rw [← hfirst, ← hlastBytes, bytesBetween_append (by omega) hbefore,
    bytesBetween_append (by omega) (by omega)]

/-- So does every call that is found. -/
theorem bytes_of_mem_calls (tree : IsTree root) (hwithin : root.stop ≤ source.size)
    (opened : CallsOpen root) (close : CallsClose root) (spelled : ClosersSpelled source root)
    {cs : List Call} (hcs : Require.calls source root = .ok cs) {c : Call} (hc : c ∈ cs) :
    c.start < c.stop ∧ c.stop ≤ source.size ∧ SpellsCall source c.start c.stop := by
  obtain ⟨p, hp, hreports⟩ := exists_left_of_mem (reports_of_calls hcs) hc
  obtain ⟨hn, hcall⟩ := mem_callPlaces.1 hp
  rw [hreports.bounds.1, hreports.bounds.2]
  exact bytes_of_isCall tree hwithin opened close spelled hn hcall

/-- The bytes of a free reference are those of its name. -/
theorem bytes_of_mem_references (tree : IsTree root) (hwithin : root.stop ≤ source.size)
    {rs : List Reference} (hrs : Scope.freeReferences source root = .ok rs) {r : Reference}
    (hr : r ∈ rs) :
    r.start < r.stop ∧ r.stop ≤ source.size ∧
      bytesBetween source r.start r.stop = encode r.name := by
  have hfree : IsFree source root r := (mem_freeReferences tree hrs).1 hr
  obtain ⟨up, n, hn, hmay, -, ht, -, -, -, hstart, hstop⟩ := hfree
  obtain ⟨-, hnonempty⟩ := tree.leaf up n hn hmay.1
  have hinside := tree.nested.inside hn
  rw [hstart, hstop]
  exact ⟨hnonempty, Nat.le_trans hinside.2 hwithin, bytes_of_text ht⟩

/-! ## Different spans -/

/-- Every call stops before the next one does. -/
theorem stops_in_order (tree : IsTree root) (close : CallsClose root) {cs : List Call}
    (hcs : Require.calls source root = .ok cs) : cs.Pairwise fun a b => a.stop < b.stop := by
  have hplaces : ((callPlaces source root).map fun p => (p.2.start, p.2.stop)).Pairwise
      fun a b => a.2 < b.2 :=
    List.pairwise_map.2 ((callPlaces_in_order tree.nested close).imp fun h => h.1)
  rw [bounds_of_reports (reports_of_calls hcs), List.pairwise_map] at hplaces
  exact hplaces

/-! ## The result -/

/-- A dependency stands within the source, where its bytes are. -/
structure Dependency.InPlace (source : ByteArray) (d : Dependency) : Prop where
  nonempty : d.start < d.stop
  within : d.stop ≤ source.size
  /-- A name stands where it is spelled. -/
  name : d.kind = .free → bytesBetween source d.start d.stop = encode d.spec
  /-- Any other dependency goes from `require` to a closing parenthesis. -/
  call : d.kind ≠ .free → SpellsCall source d.start d.stop

theorem Dependency.IsOfCall.inPlace {c : Call} {d : Dependency} (hof : d.IsOfCall c)
    (tree : IsTree root) (hwithin : root.stop ≤ source.size) (opened : CallsOpen root)
    (close : CallsClose root) (spelled : ClosersSpelled source root) {cs : List Call}
    (hcs : Require.calls source root = .ok cs) (hc : c ∈ cs) : d.InPlace source := by
  obtain ⟨hnonempty, hsize, hspells⟩ := bytes_of_mem_calls tree hwithin opened close spelled hcs hc
  rw [← hof.start, ← hof.stop] at hspells
  rw [← hof.start] at hnonempty
  rw [← hof.stop] at hnonempty hsize
  exact ⟨hnonempty, hsize, fun hfree => absurd hfree hof.not_free, fun _ => hspells⟩

theorem Dependency.IsOfReference.inPlace {r : Reference} {d : Dependency}
    (hof : d.IsOfReference r) (tree : IsTree root) (hwithin : root.stop ≤ source.size)
    {rs : List Reference} (hrs : Scope.freeReferences source root = .ok rs) (hr : r ∈ rs) :
    d.InPlace source := by
  obtain ⟨hnonempty, hsize, hbytes⟩ := bytes_of_mem_references tree hwithin hrs hr
  rw [← hof.start, ← hof.stop, ← hof.spec] at hbytes
  rw [← hof.start] at hnonempty
  rw [← hof.stop] at hnonempty hsize
  exact ⟨hnonempty, hsize, fun _ => hbytes, fun hother => absurd hof.kind hother⟩

/-- The dependencies of a script with these calls and free references. -/
structure Located (source : ByteArray) (cs : List Call) (rs : List Reference)
    (ds : List Dependency) : Prop where
  /-- First come the calls, then the references, one by one. -/
  parts : ∃ before behind, ds = before ++ behind ∧
    List.Forall₂ Dependency.IsOfCall cs before ∧ List.Forall₂ Dependency.IsOfReference rs behind
  inPlace : ∀ d ∈ ds, d.InPlace source
  /-- Those of one kind have different spans. -/
  differ : ds.Pairwise fun a b => a.kind = b.kind → (a.start, a.stop) ≠ (b.start, b.stop)

end

/-- The dependencies of a script, whatever the catalog. -/
theorem Script.located {s : Script} {catalog : Module.Catalog} {ds : List Dependency}
    (tree : IsTree s.root) (hwithin : s.root.stop ≤ s.source.size) (opened : CallsOpen s.root)
    (close : CallsClose s.root) (spelled : ClosersSpelled s.source s.root)
    (hds : s.dependencies catalog = .ok ds) :
    ∃ cs rs, s.calls = .ok cs ∧ s.freeReferences = .ok rs ∧ Located s.source cs rs ds := by
  obtain ⟨cs, hcs, hds⟩ := andThen_ok_iff.1 hds
  obtain ⟨rs, hrs, hds⟩ := andThen_ok_iff.1 hds
  cases hds
  have hcall : ∀ c, (Dependency.ofCall catalog c).IsOfCall c := .ofCall catalog
  have hreference : ∀ r, (Dependency.ofReference r).IsOfReference r := .ofReference
  refine ⟨cs, rs, hcs, hrs, ?_⟩
  constructor
  case parts =>
    refine ⟨_, _, rfl, ?_, ?_⟩
    · rw [List.forall₂_map_right_iff]
      exact List.forall₂_same.2 fun c _ => hcall c
    · rw [List.forall₂_map_right_iff]
      exact List.forall₂_same.2 fun r _ => hreference r
  case inPlace =>
    intro d hd
    rcases List.mem_append.1 hd with hd | hd
    · obtain ⟨c, hc, rfl⟩ := List.mem_map.1 hd
      exact (hcall c).inPlace tree hwithin opened close spelled hcs hc
    · obtain ⟨r, hr, rfl⟩ := List.mem_map.1 hd
      exact (hreference r).inPlace tree hwithin hrs hr
  case differ =>
    refine List.pairwise_append.2 ⟨?_, ?_, ?_⟩
    · refine List.pairwise_map.2 ((stops_in_order tree close hcs).imp ?_)
      intro a b hstop _ hspan
      have hsame := (Prod.mk.inj hspan).2
      rw [(hcall a).stop, (hcall b).stop] at hsame
      omega
    · refine List.pairwise_map.2 ((starts_differ tree hrs).imp ?_)
      intro a b hstart _ hspan
      exact hstart (Prod.mk.inj hspan).1
    · intro a ha b hb hkind
      obtain ⟨c, -, rfl⟩ := List.mem_map.1 ha
      obtain ⟨r, -, rfl⟩ := List.mem_map.1 hb
      exact absurd (hkind.trans (hreference r).kind) (hcall c).not_free

/-- The dependencies of a source, whatever the catalog: all calls of its tree and then all free
references, each where its bytes are. -/
theorem dependencies_located {source : ByteArray} {catalog : Module.Catalog} {s : Script}
    {ds : List Dependency} (hs : Script.read source = .ok s) (tree : IsTree s.root)
    (hwithin : s.root.stop ≤ source.size) (opened : CallsOpen s.root) (close : CallsClose s.root)
    (spelled : ClosersSpelled source s.root) (hds : dependencies source catalog = .ok ds) :
    ∃ cs rs, s.calls = .ok cs ∧ s.freeReferences = .ok rs ∧ Located source cs rs ds := by
  have hscript : s.dependencies catalog = .ok ds := by
    unfold dependencies at hds
    rw [hs] at hds
    dsimp only at hds
    cases hscript : s.dependencies catalog with
    | error e =>
      rw [hscript] at hds
      cases hds
    | ok ds' =>
      rw [hscript] at hds
      cases hds
      rfl
  obtain ⟨rfl, -⟩ := Script.read_eq_ok.1 hs
  exact Script.located tree hwithin opened close spelled hscript

/-- The bytes of `require=>require(é)`. -/
def accentedArgument : ByteArray :=
  Text.toBytes (encode (lit "require=>require(" ++ [0xE9] ++ lit ")"))

/-- The name has one letter and two bytes. -/
theorem located_in_accentedArgument :
    ∃ cs rs, (Script.ofSource accentedArgument).calls = .ok cs ∧
      (Script.ofSource accentedArgument).freeReferences = .ok rs ∧
      Located accentedArgument cs rs [.dynamic [0xE9] 9 20, .free [0xE9] 17 19 false] := by
  -- decided at once, so that the source is parsed once
  have hscript : let s := Script.ofSource accentedArgument
      s.error? = none ∧ IsTree s.root ∧ s.root.stop ≤ accentedArgument.size ∧
        CallsOpen s.root ∧ CallsClose s.root ∧ ClosersSpelled accentedArgument s.root ∧
        dependencies accentedArgument {} =
          .ok [.dynamic [0xE9] 9 20, .free [0xE9] 17 19 false] := by
    decide +kernel
  obtain ⟨herror, tree, hwithin, opened, close, spelled, hds⟩ := hscript
  have hread := Script.read_eq_ok.2 ⟨rfl, herror⟩
  exact dependencies_located hread tree hwithin opened close spelled hds

end ScriptDeps

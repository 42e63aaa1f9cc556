import Mathlib.Data.List.Nodup
import ScriptDeps.Files.Scripts
import ScriptDeps.Proofs.Gather
import ScriptDeps.Proofs.Text.Parts

namespace ScriptDeps

open Text (lit splitOn_join not_mem_of_mem_splitOn)

/-! # Paths lead to one place

In a directory whose entries have different names, as a system of files allows them, the text of a
path says where it leads. So scripts whose paths have the same text are the same script, whichever
of the paths of a command line they were found under. Main statements:

* `Path.names_ofText_text`: the names of a path can be read off its text;
* `Entry.mem_descendants`: what is below a directory is reached through its entries;
* `Entry.Proper.walk_below`: what is below a directory is found under its names;
* `scripts_determined`: two scripts whose paths have the same text are the same.
-/

/-! ## Names and texts of paths -/

namespace Path

/-- What can stand between the slashes of a path. -/
structure IsPart (name : Text) : Prop where
  nonempty : name ≠ []
  unslashed : slash ∉ name
  ne_here : name ≠ lit "."

/-- What can be the name of an entry in a directory. -/
structure IsName (name : Text) : Prop extends IsPart name where
  ne_up : name ≠ up
  short : isNameTooLong name = false

theorem isName_iff {name : Text} :
    (name ≠ [] ∧ slash ∉ name ∧ name ≠ lit "." ∧ name ≠ up ∧ isNameTooLong name = false) ↔
      IsName name := by
  constructor
  · rintro ⟨hnonempty, hslash, hhere, hup, hshort⟩
    exact ⟨⟨hnonempty, hslash, hhere⟩, hup, hshort⟩
  · rintro ⟨⟨hnonempty, hslash, hhere⟩, hup, hshort⟩
    exact ⟨hnonempty, hslash, hhere, hup, hshort⟩

instance (name : Text) : Decidable (IsName name) := decidable_of_iff _ isName_iff

theorem isPart_of_mem_names {t name : Text} (h : name ∈ (ofText t).names) : IsPart name := by
  obtain ⟨hsplit, hkept⟩ := List.mem_filter.1 h
  rw [Bool.and_eq_true] at hkept
  exact ⟨by simpa using hkept.1, not_mem_of_mem_splitOn hsplit, by simpa using hkept.2⟩

/-- The names of a relative path can be read off its text. -/
theorem names_ofText_text {p : Path} (hroot : p.root = []) (h : ∀ name ∈ p.names, IsPart name) :
    (ofText p.text).names = p.names := by
  cases hnames : p.names with
  | nil =>
    rw [text, hroot, hnames]
    decide
  | cons name names =>
    have hne : p.names ≠ [] := by simp [hnames]
    have htext : p.text = Text.join [slash] p.names := by simp [text, hroot, hnames]
    have hkept : ∀ part ∈ p.names, (!part.isEmpty && part != lit ".") = true := by
      intro part hpart
      simp [(h part hpart).nonempty, (h part hpart).ne_here]
    rw [← hnames, htext, ofText, splitOn_join hne fun part hpart => (h part hpart).unslashed]
    exact List.filter_eq_self.2 hkept

end Path

/-! ## Directories -/

namespace Entry

/-- In all directories, the entries have names, and different ones. -/
inductive Proper : Entry → Prop
  | file (content : List Nat) : Proper (.file content)
  | directory {entries : List (Text × Entry)} :
      (∀ x ∈ entries, Path.IsName x.1) → (entries.map (·.1)).Nodup →
      (∀ x ∈ entries, Proper x.2) → Proper (.directory entries)

/-- An entry below a directory is one of its own or below one of these. -/
theorem mem_descendantsOf {entries : List (Text × Entry)} {names : List Text} {e : Entry} :
    (names, e) ∈ descendantsOf entries ↔
      ∃ x ∈ entries, (names = [x.1] ∧ e = x.2) ∨
        ∃ rest, names = x.1 :: rest ∧ (rest, e) ∈ x.2.descendants := by
  induction entries with
  | nil => simp [descendantsOf]
  | cons x entries ih =>
    obtain ⟨name, entry⟩ := x
    rw [descendantsOf, List.cons_append, List.mem_cons, List.mem_append, ih, Prod.mk.injEq,
      List.exists_mem_cons_iff, or_assoc]
    simp only [List.mem_map, Prod.mk.injEq, Prod.exists]
    grind

/-- Below a directory, the names lead to the entry. -/
inductive Below : Entry → List Text → Entry → Prop
  | entry {entries : List (Text × Entry)} {name : Text} {e : Entry} :
      (name, e) ∈ entries → Below (.directory entries) [name] e
  | deeper {entries : List (Text × Entry)} {name : Text} {d e : Entry} {names : List Text} :
      (name, d) ∈ entries → Below d names e → Below (.directory entries) (name :: names) e

/-- The descendants of an entry are what is below it. -/
theorem mem_descendants {names : List Text} {d e : Entry} :
    (names, e) ∈ d.descendants ↔ d.Below names e := by
  induction names generalizing d with
  | nil =>
    refine iff_of_false ?_ nofun
    intro h
    cases d with
    | file content => cases h
    | directory entries =>
      obtain ⟨x, -, ⟨hnames, -⟩ | ⟨rest, hnames, -⟩⟩ := mem_descendantsOf.1 h <;> cases hnames
  | cons name names ih =>
    cases d with
    | file content => exact iff_of_false nofun nofun
    | directory entries =>
      rw [descendants, mem_descendantsOf]
      constructor
      · rintro ⟨x, hx, ⟨hnames, rfl⟩ | ⟨rest, hnames, hrest⟩⟩
        · cases hnames
          exact .entry hx
        · cases hnames
          exact .deeper hx (ih.1 hrest)
      · intro h
        cases h with
        | entry he => exact ⟨_, he, Or.inl ⟨rfl, rfl⟩⟩
        | deeper hd he => exact ⟨_, hd, Or.inr ⟨names, rfl, ih.2 he⟩⟩

theorem Below.ne_nil {names : List Text} {d e : Entry} (h : d.Below names e) : names ≠ [] := by
  cases h <;> exact List.cons_ne_nil _ _

theorem lookup_of_mem {entries : List (Text × Entry)} (hdistinct : (entries.map (·.1)).Nodup)
    {x : Text × Entry} (hx : x ∈ entries) : entries.lookup x.1 = some x.2 := by
  obtain ⟨before, after, rfl⟩ := List.append_of_mem hx
  refine List.lookup_eq_some_iff.2 ⟨before, after, rfl, ?_⟩
  intro y hy
  rw [List.map_append, List.map_cons, List.nodup_append] at hdistinct
  have hne := hdistinct.2.2 y.1 (List.mem_map_of_mem hy) x.1 List.mem_cons_self
  simpa using Ne.symm hne

/-- A walk goes on in the entry that has the name. -/
theorem walk_entry {entries : List (Text × Entry)} (hnames : ∀ x ∈ entries, Path.IsName x.1)
    (hdistinct : (entries.map (·.1)).Nodup) {x : Text × Entry} (hx : x ∈ entries)
    (above : List Entry) (rest : List Text) :
    walk above (.directory entries) (x.1 :: rest) =
      walk (.directory entries :: above) x.2 rest := by
  have hname := hnames x hx
  have hshort : ¬ Path.isNameTooLong x.1 := by simp [hname.short]
  simp only [walk, if_neg hname.ne_up, if_neg hshort, lookup_of_mem hdistinct hx]

/-- The names under which something is found below a proper entry can be names of entries. -/
theorem Proper.isName_of_below {names : List Text} {d e : Entry} (hd : d.Proper)
    (h : d.Below names e) : ∀ name ∈ names, Path.IsName name := by
  induction h with
  | entry he =>
    cases hd with
    | directory hnames => exact List.forall_mem_singleton.2 (hnames _ he)
  | deeper hentry _ ih =>
    cases hd with
    | directory hnames _ hbelow =>
      exact List.forall_mem_cons.2 ⟨hnames _ hentry, ih (hbelow _ hentry)⟩

/-- What is below a proper entry is found under its names. -/
theorem Proper.walk_below {names : List Text} {d e : Entry} (hd : d.Proper)
    (h : d.Below names e) (above : List Entry) : walk above d names = .entry e := by
  induction h generalizing above with
  | entry he =>
    cases hd with
    | directory hnames hdistinct => rw [walk_entry hnames hdistinct he, walk]
  | deeper hentry _ ih =>
    cases hd with
    | directory hnames hdistinct hbelow =>
      rw [walk_entry hnames hdistinct hentry]
      exact ih (hbelow _ hentry) _

/-- A walk can be interrupted. -/
theorem walk_append {names : List Text} {above : List Entry} {here d : Entry}
    (h : walk above here names = .entry d) :
    ∃ above', ∀ more, walk above here (names ++ more) = walk above' d more := by
  induction names generalizing above here with
  | nil =>
    rw [walk] at h
    cases h
    exact ⟨above, fun _ => rfl⟩
  | cons name names ih =>
    cases here with
    | file content => simp [walk] at h
    | directory entries =>
      -- up or down, the longer walk takes the same step
      simp only [List.cons_append, walk] at h ⊢
      by_cases hup : name = Path.up
      · simp only [if_pos hup] at h ⊢
        cases above with
        | nil => cases h
        | cons parent above => exact ih h
      · simp only [if_neg hup] at h ⊢
        by_cases hlong : Path.isNameTooLong name
        · rw [if_pos hlong] at h
          cases h
        · simp only [if_neg hlong] at h ⊢
          cases hlookup : entries.lookup name with
          | none =>
            rw [hlookup] at h
            cases h
          | some x =>
            rw [hlookup] at h
            exact ih h

/-- Walks in proper entries lead to proper entries. -/
theorem Proper.of_walk {names : List Text} {above : List Entry} {here d : Entry}
    (habove : ∀ a ∈ above, a.Proper) (hhere : here.Proper)
    (h : walk above here names = .entry d) : d.Proper := by
  induction names generalizing above here with
  | nil =>
    rw [walk] at h
    cases h
    exact hhere
  | cons name names ih =>
    cases hhere with
    | file content => simp [walk] at h
    | @directory entries hnames hdistinct hbelow =>
      -- a step leads to an entry above or to one of the directory
      simp only [walk] at h
      split at h
      · split at h
        · cases h
        · next parent more =>
          exact ih (fun a ha => habove a (List.mem_cons_of_mem parent ha))
            (habove parent List.mem_cons_self) h
      · split at h
        · cases h
        · split at h
          · cases h
          · next x hlookup =>
            obtain ⟨before, after, rfl, -⟩ := List.lookup_eq_some_iff.1 hlookup
            refine ih ?_ (hbelow (name, x) (by simp)) h
            intro a ha
            rcases List.mem_cons.1 ha with rfl | ha
            · exact .directory hnames hdistinct hbelow
            · exact habove a ha

end Entry

/-! ## Scripts -/

theorem mem_scripts {d : Entry} {p q : Path} {e : Entry} :
    (q, e) ∈ d.scripts p ↔
      (∃ names, (names, e) ∈ d.descendants ∧ q = p.append names) ∧ q.isScript := by
  rw [Entry.scripts, List.mem_mergeSort, List.mem_filter, List.mem_map]
  simp only [Prod.exists, Prod.mk.injEq]
  grind

/-- The entry is what the path leads to in the tree. -/
structure Stands (tree : Entry) (script : Path × Entry) : Prop where
  root : script.1.root = []
  parts : ∀ name ∈ script.1.names, Path.IsPart name
  walk : Entry.walk [] tree script.1.names = .entry script.2

theorem stands_of_scriptsAt {tree : Entry} (htree : tree.Proper) {t : Text}
    {scripts : List (Path × Entry)} (h : scriptsAt tree.find t = .ok scripts)
    {script : Path × Entry} (hscript : script ∈ scripts) : Stands tree script := by
  have hparts : ∀ name ∈ (Path.ofText t).names, Path.IsPart name :=
    fun name hname => Path.isPart_of_mem_names hname
  rw [scriptsAt] at h
  split at h
  · cases h
  · cases h
  · next d hfind =>
    cases h
    -- only a path from here is looked for in the tree
    have hroot : (Path.ofText t).root = [] ∧
        Entry.walk [] tree (Path.ofText t).names = .entry d := by
      rw [Entry.find] at hfind
      split at hfind
      · cases hfind
      · split at hfind
        · next hroot => exact ⟨by simpa using hroot, hfind⟩
        · cases hfind
    have hd : d.Proper := .of_walk (by simp) htree hroot.2
    split at hscript
    · obtain ⟨q, e⟩ := script
      obtain ⟨⟨names, hnames, rfl⟩, -⟩ := mem_scripts.1 hscript
      have hbelow := Entry.mem_descendants.1 hnames
      refine ⟨hroot.1, ?_, ?_⟩
      · intro name hname
        rcases List.mem_append.1 hname with hname | hname
        · exact hparts name hname
        · exact (hd.isName_of_below hbelow name hname).toIsPart
      · obtain ⟨above, happend⟩ := Entry.walk_append hroot.2
        rw [Path.append, happend]
        exact hd.walk_below hbelow above
    · rw [List.mem_singleton] at hscript
      subst hscript
      exact ⟨hroot.1, hparts, hroot.2⟩

theorem Stands.unique {tree : Entry} {a b : Path × Entry} (ha : Stands tree a)
    (hb : Stands tree b) (h : a.1.text = b.1.text) : a = b := by
  obtain ⟨⟨aroot, anames⟩, ae⟩ := a
  obtain ⟨⟨broot, bnames⟩, be⟩ := b
  have hnames : anames = bnames := by
    have htext := congrArg (fun t => (Path.ofText t).names) h
    simpa only [Path.names_ofText_text ha.root ha.parts, Path.names_ofText_text hb.root hb.parts]
      using htext
  have hroot : aroot = broot := ha.root.trans hb.root.symm
  have hwalk : Entry.Found.entry ae = .entry be := by
    rw [← ha.walk, ← hb.walk]
    exact congrArg _ hnames
  cases hwalk
  rw [hroot, hnames]

/-- In a proper tree, the paths of all scripts lead to them. -/
theorem stands_of_scriptsAtAll {tree : Entry} (htree : tree.Proper) {texts : List Text}
    {scripts : List (Path × Entry)} (h : scriptsAtAll tree.find texts = .ok scripts) :
    ∀ script ∈ scripts, Stands tree script := by
  obtain ⟨found, hfound, hflat⟩ := andThen_ok_iff.1 h
  cases hflat
  intro script hscript
  obtain ⟨some, hsome, hmem⟩ := List.mem_flatten.1 hscript
  obtain ⟨t, -, ht⟩ := (mem_mapM hfound).1 hsome
  exact stands_of_scriptsAt htree ht hmem

/-- In a proper tree, two scripts whose paths have the same text are the same. -/
theorem scripts_determined {tree : Entry} (htree : tree.Proper) {texts : List Text}
    {scripts : List (Path × Entry)} (h : scriptsAtAll tree.find texts = .ok scripts)
    {a b : Path × Entry} (ha : a ∈ scripts) (hb : b ∈ scripts) (htext : a.1.text = b.1.text) :
    a = b := by
  have hstands := stands_of_scriptsAtAll htree h
  exact (hstands a ha).unique (hstands b hb) htext

end ScriptDeps

import ScriptDeps.Proofs.Files.Tree
import ScriptDeps.Proofs.Sorting

namespace ScriptDeps

open Text (lit)

/-! # Which scripts paths stand for

A path to a directory stands for the entries below it that have the name of a script, unless a
directory on the way is excluded. What is excluded is decided by the whole path, the part that was
given included, and it is not looked at whether an entry is a file. Main statements:

* `Path.hasScriptName_append`: the names of scripts;
* `Entry.mem_scripts_iff`, `Entry.Proper.scripts_sorted`: what a directory stands for, and in which
  order;
* `scripts_found`: what the paths of a command line stand for.
-/

namespace Path

/-! ## Names of scripts -/

/-- The name goes on behind something with the extension of a script. -/
def IsScriptName (name : Text) : Prop :=
  ∃ stem ext, stem ≠ [] ∧ ext ∈ scriptExtensions ∧ name = stem ++ ext

theorem extension_append {stem tail : Text} (hstem : stem ≠ []) (htail : tail ≠ [])
    (hdotless : ∀ c ∈ tail, c ≠ 0x2E) : extension (stem ++ 0x2E :: tail) = 0x2E :: tail := by
  have hkept : ∀ c ∈ tail.reverse, (c != 0x2E) = true := by
    intro c hc
    simpa using hdotless c (List.mem_reverse.1 hc)
  have hreverse : (stem ++ 0x2E :: tail).reverse = tail.reverse ++ 0x2E :: stem.reverse := by simp
  have hpos : 0 < stem.length := List.length_pos_iff.2 hstem
  have hlong : ¬ (stem ++ 0x2E :: tail).length ≤ tail.length + 1 := by
    rw [List.length_append, List.length_cons]
    omega
  rw [extension, hreverse, List.takeWhile_append_of_pos hkept,
    List.takeWhile_cons_of_neg (by decide), List.append_nil, List.reverse_reverse]
  refine if_neg ?_
  rw [Bool.or_eq_true, not_or, List.isEmpty_iff, decide_eq_true_eq]
  exact ⟨htail, hlong⟩

theorem exists_stem {name : Text} (h : extension name ≠ []) :
    ∃ stem, stem ≠ [] ∧ name = stem ++ extension name := by
  rw [extension] at h ⊢
  split at h
  · exact absurd rfl h
  · next hlong =>
    rw [if_neg hlong]
    rw [Bool.or_eq_true, not_or, decide_eq_true_eq, List.length_reverse] at hlong
    have hsplit := List.takeWhile_append_dropWhile (p := (· != 0x2E)) (l := name.reverse)
    have hfirst := List.head?_dropWhile_not (· != 0x2E) name.reverse
    have hlength := congrArg List.length hsplit
    rw [List.length_append, List.length_reverse] at hlength
    -- read from its end, the name goes on with a dot behind the extension
    cases hdrop : name.reverse.dropWhile (· != 0x2E) with
    | nil =>
      rw [hdrop, List.length_nil] at hlength
      omega
    | cons c rest =>
      rw [hdrop] at hsplit hfirst hlength
      have hc : c = 0x2E := by simpa using hfirst
      refine ⟨rest.reverse, ?_, ?_⟩
      · intro hnil
        rw [List.reverse_eq_nil_iff.1 hnil] at hlength
        simp only [List.length_cons, List.length_nil] at hlength
        omega
      · have hname : name = (name.reverse.takeWhile (· != 0x2E) ++ c :: rest).reverse := by
          rw [hsplit, List.reverse_reverse]
        rw [hc] at hname
        exact hname.trans (by simp)

/-- The names of scripts go on behind something with `.js` or `.cjs`. -/
theorem contains_extension {name : Text} :
    scriptExtensions.contains (extension name) = true ↔ IsScriptName name := by
  rw [List.contains_iff_mem]
  constructor
  · intro h
    have hne : extension name ≠ [] := by
      intro hnil
      rw [hnil] at h
      exact absurd h (by decide)
    obtain ⟨stem, hstem, hname⟩ := exists_stem hne
    exact ⟨stem, _, hstem, h, hname⟩
  · rintro ⟨stem, ext, hstem, hext, rfl⟩
    have hdot : ∀ e ∈ scriptExtensions, ∃ tail, e = 0x2E :: tail ∧ tail ≠ [] ∧
        ∀ c ∈ tail, c ≠ 0x2E := by
      intro e he
      rcases List.mem_cons.1 he with rfl | he
      · exact ⟨lit "js", by decide, by decide, by decide⟩
      · rw [List.mem_singleton.1 he]
        exact ⟨lit "cjs", by decide, by decide, by decide⟩
    obtain ⟨tail, rfl, htail, hdotless⟩ := hdot ext hext
    rw [extension_append hstem htail hdotless]
    exact hext

theorem hasScriptName_append {p : Path} {names : List Text} {name : Text} :
    (p.append (names ++ [name])).hasScriptName = true ↔ IsScriptName name := by
  have hlast : (p.append (names ++ [name])).names.getLast? = some name := by
    rw [append, ← List.append_assoc, List.getLast?_concat]
  rw [hasScriptName, hlast]
  exact contains_extension

/-! ## Excluded directories -/

/-- The path does not lead into an excluded directory. -/
def Outside (p : Path) : Prop := ∀ name ∈ p.names, name ∉ excludedNames

instance (p : Path) : Decidable p.Outside := by
  unfold Outside
  infer_instance

theorem isExcluded_append {p : Path} {names : List Text} {name : Text} :
    (p.append (names ++ [name])).isExcluded = false ↔
      p.Outside ∧ ∀ between ∈ names, between ∉ excludedNames := by
  rw [isExcluded, append, ← List.append_assoc, List.dropLast_concat, List.any_eq_false]
  simp only [List.contains_iff_mem, Outside]
  exact List.forall_mem_append

/-! ## The order of paths -/

theorem go_cons_cons (a b : Text) (s t : List Text) :
    before.go (a :: s) (b :: t) = if a = b then before.go s t else Text.before a b := rfl

theorem go_cons_iff {a b : Text} {s t : List Text} :
    before.go (a :: s) (b :: t) = true ↔
      (a = b ∧ before.go s t = true) ∨ Text.before a b = true := by
  rw [go_cons_cons]
  by_cases hab : a = b
  · subst hab
    simp [Text.before_irrefl]
  · simp [hab]

theorem orders_go : Orders before.go where
  irrefl names := by
    induction names with
    | nil => rfl
    | cons name names ih => rw [go_cons_cons, if_pos rfl, ih]
  trans {a b c} hab hbc := by
    induction a generalizing b c with
    | nil =>
      cases b with
      | nil => cases hab
      | cons y b =>
        cases c with
        | nil => cases hbc
        | cons z c => rfl
    | cons x a ih =>
      cases b with
      | nil => cases hab
      | cons y b =>
        cases c with
        | nil => cases hbc
        | cons z c =>
          rw [go_cons_iff] at hab hbc ⊢
          -- the first place where names differ decides
          rcases hab with ⟨rfl, hab⟩ | hxy <;> rcases hbc with ⟨rfl, hbc⟩ | hyz
          · exact .inl ⟨rfl, ih hab hbc⟩
          · exact .inr hyz
          · exact .inr hxy
          · exact .inr (Text.before_trans hxy hyz)
  eq_of_not {a b} hab hba := by
    induction a generalizing b with
    | nil =>
      cases b with
      | nil => rfl
      | cons y b => cases hab
    | cons x a ih =>
      cases b with
      | nil => cases hba
      | cons y b =>
        rw [go_cons_cons] at hab hba
        by_cases hxy : x = y
        · rw [if_pos hxy] at hab
          rw [if_pos hxy.symm] at hba
          rw [hxy, ih hab hba]
        · rw [if_neg hxy] at hab
          rw [if_neg (Ne.symm hxy)] at hba
          exact absurd (Text.eq_of_not_before hab hba) hxy

end Path

namespace Entry

/-! ## What is below a directory -/

theorem descendantsOf_eq_flatMap (entries : List (Text × Entry)) :
    descendantsOf entries = entries.flatMap fun x =>
      ([x.1], x.2) :: x.2.descendants.map fun y => (x.1 :: y.1, y.2) := by
  induction entries with
  | nil => rfl
  | cons x entries ih =>
    obtain ⟨name, e⟩ := x
    rw [descendantsOf, ih, List.flatMap_cons]

/-- Below a proper entry, different entries are reached by different names. -/
theorem Proper.descendants_differ {d : Entry} (hd : d.Proper) :
    d.descendants.Pairwise fun a b => a.1 ≠ b.1 := by
  induction hd with
  | file content => exact .nil
  | @directory entries hnames hdistinct hbelow ih =>
    rw [descendants, descendantsOf_eq_flatMap, List.pairwise_flatMap]
    constructor
    · intro x hx
      refine List.pairwise_cons.2 ⟨?_, ?_⟩
      · -- the names of what is below go on behind the name of the entry itself
        intro y hy heq
        obtain ⟨⟨names, e⟩, hz, rfl⟩ := List.mem_map.1 hy
        have hnil : names = [] := (List.cons.inj heq).2.symm
        exact (mem_descendants.1 hz).ne_nil hnil
      · refine List.pairwise_map.2 ((ih x hx).imp ?_)
        intro a b hne heq
        exact hne (List.cons.inj heq).2
    · refine (List.pairwise_map.1 hdistinct).imp ?_
      intro x y hne a ha b hb heq
      have hhead : ∀ (z : Text × Entry) (c : List Text × Entry),
          c ∈ ([z.1], z.2) :: z.2.descendants.map (fun w => (z.1 :: w.1, w.2)) →
            c.1.head? = some z.1 := by
        intro z c hc
        rcases List.mem_cons.1 hc with rfl | hc
        · rfl
        · obtain ⟨w, -, rfl⟩ := List.mem_map.1 hc
          rfl
      have hsame := congrArg List.head? heq
      rw [hhead x a ha, hhead y b hb] at hsame
      exact hne (Option.some.inj hsame)

/-! ## What a directory stands for -/

/-- Below the directory `d`, whose path is `p`, an entry stands at the path of the script. It has the
name of a script, and no directory between the two is excluded. -/
def Sought (d : Entry) (p : Path) (script : Path × Entry) : Prop :=
  ∃ names name, d.Below (names ++ [name]) script.2 ∧ script.1 = p.append (names ++ [name]) ∧
    Path.IsScriptName name ∧ ∀ between ∈ names, between ∉ Path.excludedNames

/-- The entry that is sought is a file. -/
def Wanted (d : Entry) (p : Path) (script : Path × Entry) : Prop :=
  d.Sought p script ∧ script.2.isDirectory = false

theorem mem_scripts_iff {d : Entry} {p : Path} {script : Path × Entry} :
    script ∈ d.scripts p ↔ d.Sought p script ∧ p.Outside := by
  obtain ⟨q, e⟩ := script
  rw [mem_scripts]
  constructor
  · rintro ⟨⟨names, hnames, rfl⟩, hscript⟩
    have hbelow := mem_descendants.1 hnames
    rcases List.eq_nil_or_concat names with rfl | ⟨front, name, rfl⟩
    · exact absurd rfl hbelow.ne_nil
    · rw [List.concat_eq_append] at hbelow hscript ⊢
      rw [Path.isScript, Bool.and_eq_true, Bool.not_eq_true', Path.isExcluded_append,
        Path.hasScriptName_append] at hscript
      obtain ⟨hname, houtside, hbetween⟩ := hscript
      exact ⟨⟨front, name, hbelow, rfl, hname, hbetween⟩, houtside⟩
  · rintro ⟨⟨front, name, hbelow, hpath, hname, hbetween⟩, houtside⟩
    obtain rfl : q = p.append (front ++ [name]) := hpath
    refine ⟨⟨_, mem_descendants.2 hbelow, rfl⟩, ?_⟩
    rw [Path.isScript, Bool.and_eq_true, Bool.not_eq_true', Path.isExcluded_append,
      Path.hasScriptName_append]
    exact ⟨hname, houtside, hbetween⟩

/-- The scripts of a proper directory come in the order of paths, each once. -/
theorem Proper.scripts_sorted {d : Entry} (hd : d.Proper) (p : Path) :
    (d.scripts p).Pairwise fun a b => Path.before a.1 b.1 = true := by
  refine Path.orders_go.strictly_sorted (fun s : Path × Entry => s.1.names) ?_
  refine List.Pairwise.filter _ (List.pairwise_map.2 (hd.descendants_differ.imp ?_))
  intro a b hne heq
  exact hne (List.append_cancel_left heq)

end Entry

/-! ## What paths stand for -/

/-- What a path stands for if it leads to the entry. -/
structure StandsFor (p : Path) (e : Entry) (found : List (Path × Entry)) : Prop where
  /-- A file stands for itself. -/
  file : e.isDirectory = false → found = [(p, e)]
  /-- The scripts of a directory come in the order of paths, each once. -/
  ordered : e.isDirectory = true → found.Pairwise fun a b => Path.before a.1 b.1 = true
  /-- A directory stands for what is sought below it, unless its own path leads into an excluded
  directory. -/
  directory : e.isDirectory = true → ∀ script, script ∈ found ↔ e.Sought p script ∧ p.Outside
  /-- These are the files that are wanted exactly if no directory is among what is sought, and
  nothing is wanted where the path leads into an excluded directory. -/
  exact : e.isDirectory = true →
    ((∀ script, script ∈ found ↔ e.Wanted p script) ↔
      (p.Outside → ∀ script, e.Sought p script → script.2.isDirectory = false) ∧
        (¬ p.Outside → ∀ script, ¬ e.Wanted p script))

theorem exact_of_sought {p : Path} {e : Entry} {found : List (Path × Entry)}
    (h : ∀ script, script ∈ found ↔ e.Sought p script ∧ p.Outside) :
    (∀ script, script ∈ found ↔ e.Wanted p script) ↔
      (p.Outside → ∀ script, e.Sought p script → script.2.isDirectory = false) ∧
        (¬ p.Outside → ∀ script, ¬ e.Wanted p script) := by
  constructor
  · intro hexact
    constructor
    · intro houtside script hsought
      exact ((hexact script).1 ((h script).2 ⟨hsought, houtside⟩)).2
    · intro hinside script hwanted
      exact hinside ((h script).1 ((hexact script).2 hwanted)).2
  · rintro ⟨hfiles, hnothing⟩ script
    rw [h]
    by_cases hp : p.Outside
    · exact ⟨fun hs => ⟨hs.1, hfiles hp script hs.1⟩, fun hw => ⟨hw.1, hp⟩⟩
    · exact ⟨fun hs => absurd hs.2 hp, fun hw => absurd hw (hnothing hp script)⟩

theorem standsFor_of_scriptsAt {find : Path → Entry.Found} {t : Text} {e : Entry}
    (hfind : find (.ofText t) = .entry e) (he : e.Proper) {found : List (Path × Entry)}
    (h : scriptsAt find t = .ok found) : StandsFor (.ofText t) e found := by
  rw [scriptsAt, hfind] at h
  cases h
  by_cases hd : e.isDirectory = true
  · rw [if_pos hd]
    have hmem : ∀ script, script ∈ e.scripts (.ofText t) ↔
        e.Sought (.ofText t) script ∧ (Path.ofText t).Outside := fun _ => Entry.mem_scripts_iff
    constructor
    case file =>
      intro hfile
      rw [hd] at hfile
      cases hfile
    case ordered =>
      exact fun _ => he.scripts_sorted _
    case directory =>
      exact fun _ => hmem
    case exact =>
      exact fun _ => exact_of_sought hmem
  · rw [if_neg hd]
    exact ⟨fun _ => rfl, fun h => absurd h hd, fun h => absurd h hd, fun h => absurd h hd⟩

/-- Where a path leads, unless it is too long to be looked up. -/
theorem Stands.find {tree : Entry} {script : Path × Entry} (h : Stands tree script)
    (hshort : script.1.isTooLong = false) : tree.find script.1 = .entry script.2 := by
  rw [Entry.find, if_neg (by simp [hshort]), if_pos (by simp [h.root]), h.walk]

/-- If all paths lead somewhere, each of them stands for its file or for the scripts of its
directory, and the paths of these lead to them. -/
theorem scripts_found {find : Path → Entry.Found} {texts : List Text}
    (h : ∀ t ∈ texts, ∃ e, find (.ofText t) = .entry e ∧ e.Proper) :
    ∃ parts, scriptsAtAll find texts = .ok parts.flatten ∧
      List.Forall₂ (fun t part => ∃ e, find (.ofText t) = .entry e ∧ StandsFor (.ofText t) e part)
        texts parts ∧
      ∀ tree : Entry, tree.Proper → find = tree.find → ∀ script ∈ parts.flatten,
        script.1.isTooLong = false → tree.find script.1 = .entry script.2 := by
  have heach : ∀ t ∈ texts, ∃ part, scriptsAt find t = .ok part := by
    intro t ht
    obtain ⟨d, hd, -⟩ := h t ht
    rw [scriptsAt, hd]
    exact ⟨_, rfl⟩
  obtain ⟨parts, hparts⟩ := exists_mapM_iff.2 heach
  have hall : scriptsAtAll find texts = .ok parts.flatten := by
    rw [scriptsAtAll, hparts]
    rfl
  refine ⟨parts, hall, ?_, ?_⟩
  · have hboth := (List.forall₂_and_left _ _).2 ⟨h, forall₂_mapM hparts⟩
    refine hboth.imp ?_
    rintro t part ⟨⟨e, hfind, he⟩, hpart⟩
    exact ⟨e, hfind, standsFor_of_scriptsAt hfind he hpart⟩
  · rintro tree htree rfl script hscript
    exact (stands_of_scriptsAtAll htree hall script hscript).find

/-- A file beside a directory with two scripts, which are not in the order of their names. -/
def mixedTree : Entry :=
  .directory [(lit "s", .file []),
    (lit "d", .directory [(lit "b.js", .file []), (lit "a.cjs", .file [])])]

theorem proper_of_two {first second : Text} {a b : Entry} (hfirst : Path.IsName first)
    (hsecond : Path.IsName second) (hne : first ≠ second) (ha : a.Proper) (hb : b.Proper) :
    (Entry.directory [(first, a), (second, b)]).Proper := by
  refine .directory ?_ (by simpa using hne) ?_
  · exact List.forall_mem_cons.2 ⟨hfirst, List.forall_mem_singleton.2 hsecond⟩
  · exact List.forall_mem_cons.2 ⟨ha, List.forall_mem_singleton.2 hb⟩

theorem proper_mixedTree : mixedTree.Proper :=
  proper_of_two (by decide) (by decide) (by decide) (.file [])
    (proper_of_two (by decide) (by decide) (by decide) (.file []) (.file []))

/-- The file comes first, and then the scripts of the directory in their order. -/
theorem scripts_found_in_mixedTree :
    (∀ t ∈ [lit "s", lit "d"], ∃ e, mixedTree.find (.ofText t) = .entry e ∧ e.Proper) ∧
    ∃ found, scriptsAtAll mixedTree.find [lit "s", lit "d"] =
        .ok ((⟨[], [lit "s"]⟩, .file []) :: found) ∧
      (found.Pairwise fun a b => Path.before a.1 b.1 = true) ∧
      (⟨[], [lit "d", lit "a.cjs"]⟩, .file []) ∈ found ∧
      (⟨[], [lit "d", lit "b.js"]⟩, .file []) ∈ found := by
  have hscripts : (Entry.directory
      [(lit "b.js", .file []), (lit "a.cjs", .file [])]).Proper := by
    cases proper_mixedTree with
    | directory _ _ hbelow => exact hbelow _ (List.mem_cons_of_mem _ List.mem_cons_self)
  have hleads : ∀ t ∈ [lit "s", lit "d"],
      ∃ e, mixedTree.find (.ofText t) = .entry e ∧ e.Proper :=
    List.forall_mem_cons.2 ⟨⟨_, rfl, .file []⟩, List.forall_mem_singleton.2 ⟨_, rfl, hscripts⟩⟩
  refine ⟨hleads, ?_⟩
  obtain ⟨parts, hfound, hstand, -⟩ := scripts_found hleads
  cases hstand with
  | cons hs hrest =>
    cases hrest with
    | cons hd hnil =>
      cases hnil
      obtain ⟨e, he, hs⟩ := hs
      cases he
      obtain ⟨d, hfind, hd⟩ := hd
      cases hfind
      rw [hs.file rfl, List.flatten_cons, List.flatten_singleton] at hfound
      refine ⟨_, hfound, hd.ordered rfl, (hd.directory rfl _).2 ⟨?_, by decide⟩,
        (hd.directory rfl _).2 ⟨?_, by decide⟩⟩
      · exact ⟨[], lit "a.cjs", .entry (List.mem_cons_of_mem _ List.mem_cons_self), rfl,
          ⟨lit "a", lit ".cjs", by decide, by decide, rfl⟩, nofun⟩
      · exact ⟨[], lit "b.js", .entry List.mem_cons_self, rfl,
          ⟨lit "b", lit ".js", by decide, by decide, rfl⟩, nofun⟩

/-! ## Directories in the way -/

theorem proper_of_lone {name : Text} {e : Entry} (hname : Path.IsName name) (he : e.Proper) :
    (Entry.directory [(name, e)]).Proper := by
  refine .directory ?_ (List.nodup_singleton _) ?_
  · intro x hx
    rw [List.mem_singleton.1 hx]
    exact hname
  · intro x hx
    rw [List.mem_singleton.1 hx]
    exact he

/-- A directory with a script, below an excluded one. -/
def packageTree : Entry :=
  .directory [(lit "node_modules", .directory [(lit "a.js", .file [])])]

/-- A directory that has the name of a script. -/
def folderTree : Entry := .directory [(lit "lib.js", .directory [])]

theorem proper_packageTree : packageTree.Proper :=
  proper_of_lone (by decide) (proper_of_lone (by decide) (.file []))

theorem proper_folderTree : folderTree.Proper :=
  proper_of_lone (by decide) (.directory nofun List.nodup_nil nofun)

theorem scriptsAtAll_directory {find : Path → Entry.Found} {t : Text} {d : Entry}
    (hfind : find (.ofText t) = .entry d) (hd : d.isDirectory = true) :
    scriptsAtAll find [t] = .ok (d.scripts (.ofText t)) := by
  have hone : scriptsAt find t = .ok (d.scripts (.ofText t)) := by
    rw [scriptsAt, hfind]
    exact congrArg Except.ok (if_pos hd)
  rw [scriptsAtAll, mapM_eq_gather, gather_singleton, hone]
  show Except.ok _ = Except.ok _
  rw [List.flatten_singleton]

theorem isScriptName_js {stem : Text} (h : stem ≠ []) : Path.IsScriptName (stem ++ lit ".js") :=
  ⟨stem, lit ".js", h, List.mem_cons_self, rfl⟩

theorem sought_of_lone {stem : Text} (h : stem ≠ []) {p : Path} {e : Entry} :
    (Entry.directory [(stem ++ lit ".js", e)]).Sought p (p.append [stem ++ lit ".js"], e) :=
  ⟨[], _, .entry List.mem_cons_self, rfl, isScriptName_js h, nofun⟩

/-- Not every wanted file is found, and not all that is found is a file: the path that was given may
lead into an excluded directory, and a directory may have the name of a script. -/
theorem not_all_scripts_wanted :
    (¬ ∀ (tree d : Entry) (t : Text) (found : List (Path × Entry)) (script : Path × Entry),
      tree.Proper → tree.find (.ofText t) = .entry d → scriptsAtAll tree.find [t] = .ok found →
      d.Wanted (.ofText t) script → script ∈ found) ∧
    ¬ ∀ (tree : Entry) (t : Text) (found : List (Path × Entry)),
      tree.Proper → scriptsAtAll tree.find [t] = .ok found →
      ∀ script ∈ found, script.2.isDirectory = false := by
  constructor
  · intro h
    have hfind : packageTree.find (.ofText (lit "node_modules")) =
        .entry (.directory [(lit "a.js", .file [])]) := rfl
    have hstem : lit "a" ≠ [] := by decide
    have hwanted : (Entry.directory [(lit "a.js", .file [])]).Wanted
        (.ofText (lit "node_modules")) (⟨[], [lit "node_modules", lit "a.js"]⟩, .file []) :=
      ⟨sought_of_lone hstem, rfl⟩
    have hfound := h packageTree _ _ _ _ proper_packageTree hfind
      (scriptsAtAll_directory hfind rfl) hwanted
    have houtside := (Entry.mem_scripts_iff.1 hfound).2
    exact absurd houtside (by decide)
  · intro h
    have hfind : folderTree.find (.ofText (lit ".")) = .entry folderTree := rfl
    have hstem : lit "lib" ≠ [] := by decide
    have hsought : folderTree.Sought (.ofText (lit ".")) (⟨[], [lit "lib.js"]⟩, .directory []) :=
      sought_of_lone hstem
    have hfile := h folderTree _ _ proper_folderTree (scriptsAtAll_directory hfind rfl) _
      (Entry.mem_scripts_iff.2 ⟨hsought, by decide⟩)
    cases hfile

end ScriptDeps

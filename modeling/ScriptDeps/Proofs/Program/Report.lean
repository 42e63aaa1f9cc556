import ScriptDeps.Program
import ScriptDeps.Proofs.Analysis
import ScriptDeps.Proofs.Cluster.Fetch
import ScriptDeps.Proofs.Files.Tree
import ScriptDeps.Proofs.Json.Members

namespace ScriptDeps.Program

open Cluster (Config Session Reply Request LoadError Outcome findAfter)
open ScriptDeps.Module (Catalog)
open Text (lit)

/-! # The report on scripts

A run that analyzes scripts prints one object or nothing. The catalog is asked for once, before the
first script is looked at, so that a cluster that fails comes before a script that is malformed; a
path to nothing comes before both. Main statements:

* `analyzeScripts_value`: the scripts of a run are analyzed as if the catalog had been there before;
* `tells_of_reported`: what the object tells about the scripts;
* `ending_eq`: how a run ends;
* `run_reports`: all of this for every run that analyzes scripts.
-/

/-! ## One script -/

/-- The script is a file whose analysis leads to dependencies or to a syntax error. -/
def Analyzable (script : Path × Entry) : Prop :=
  ∃ content, script.2 = .file content ∧
    ∀ catalog, Ends (dependencies (Text.toBytes content) catalog)

/-- The catalog does not matter to whether an analysis ends. -/
theorem ends_of_ends {source : ByteArray} {a b : Catalog} (h : Ends (dependencies source a)) :
    Ends (dependencies source b) := by
  rw [ends_iff] at h ⊢
  intro s hs hfails
  apply h s hs
  rw [Script.dependencies_fails] at hfails ⊢
  exact hfails

/-- The script is a file with a syntax error. -/
def Malformed (script : Path × Entry) : Prop :=
  ∃ content e, script.2 = .file content ∧ Script.read (Text.toBytes content) = .error e

/-- The member tells about the script: it has the text of its path as a name, and its dependencies
against the catalog as a value. -/
def TellsOf (catalog : Catalog) (script : Path × Entry) (member : Text × Json) : Prop :=
  ∃ content ds, script.2 = .file content ∧ dependencies (Text.toBytes content) catalog = .ok ds ∧
    member = (script.1.text, .array (ds.map Dependency.toJson))

/-- What a script adds to the result after a load, or how it ends the run. -/
def report (o : Outcome) : Path × Entry → Except Ending (Text × Json)
  | (p, .directory _) => .error (.fault (.isDirectory p))
  | (p, .file content) =>
    match (findAfter (Text.toBytes content) o).value with
    | .error e => .error (.ofFind p e)
    | .ok ds => .ok (p.text, .array (ds.map Dependency.toJson))

/-- Nothing is printed, and the code tells that. -/
def Ending.Vain (e : Ending) : Prop := e.output = [] ∧ e.code? ≠ some 0

theorem vain_ofPath (e : PathError) : (Ending.ofPath e).Vain := by
  cases e <;> exact ⟨rfl, nofun⟩

theorem analyze_value (source : ByteArray) (catalog : Catalog) :
    (Cluster.analyze source catalog).value = (dependencies source catalog).mapError .analysis := by
  rw [Cluster.analyze, dependencies]
  cases Script.read source with
  | error e => rfl
  | ok s =>
    dsimp only
    cases s.dependencies catalog <;> rfl

section

variable {o : Outcome} {catalog : Catalog} {p : Path} {content : List Nat}
  {script : Path × Entry} {member : Text × Json}

theorem report_unloaded (e : LoadError) :
    report (.error e) (p, .file content) = .error (.ofLoad e) := rfl

theorem report_loaded :
    report (.ok catalog) (p, .file content) =
      match dependencies (Text.toBytes content) catalog with
      | .error e => .error (.ofFind p (.analysis e))
      | .ok ds => .ok (p.text, .array (ds.map Dependency.toJson)) := by
  rw [report, findAfter, analyze_value]
  cases dependencies (Text.toBytes content) catalog <;> rfl

/-- Only a file that was analyzed adds to the result. -/
theorem report_eq_ok_iff :
    report o script = .ok member ↔ ∃ catalog, o = .ok catalog ∧ TellsOf catalog script member := by
  obtain ⟨p, content | entries⟩ := script
  · cases o with
    | error e => exact iff_of_false nofun nofun
    | ok catalog =>
      rw [report_loaded]
      constructor
      · intro h
        cases hds : dependencies (Text.toBytes content) catalog with
        | error e =>
          rw [hds] at h
          cases h
        | ok ds =>
          rw [hds] at h
          cases h
          exact ⟨catalog, rfl, content, ds, rfl, hds, rfl⟩
      · rintro ⟨other, hother, found, ds, hfile, hds, rfl⟩
        cases hother
        cases hfile
        rw [hds]
  · refine iff_of_false nofun ?_
    rintro ⟨catalog, -, content, ds, hfile, -⟩
    cases hfile

/-- A script that ends the run leaves nothing to print. -/
theorem vain_of_report {e : Ending} (h : report o script = .error e) : e.Vain := by
  obtain ⟨p, content | entries⟩ := script
  · rw [report] at h
    split at h
    · next reason hfind =>
      cases h
      rcases reason with reason | (reason | reason)
      · cases reason <;> exact ⟨rfl, nofun⟩
      · exact ⟨rfl, nofun⟩
      · exact ⟨rfl, nofun⟩
    · cases h
  · cases h
    exact ⟨rfl, nofun⟩

/-- A syntax error ends the run, and the message says where it is. -/
theorem report_malformed {e : Syntax.SyntaxError}
    (h : Script.read (Text.toBytes content) = .error e) :
    report (.ok catalog) (p, .file content) =
      .error (.refused 1 (lit "Error: " ++ p.text ++ lit ": " ++ e.text ++ [0x0A])) := by
  rw [report_loaded, dependencies, h]
  rfl

/-- A script that can be analyzed and is not malformed adds to the result. -/
theorem exists_report (catalog : Catalog) (hscript : Analyzable script)
    (hwell : ¬ Malformed script) : ∃ member, report (.ok catalog) script = .ok member := by
  obtain ⟨content, hfile, hends⟩ := hscript
  obtain ⟨p, e⟩ := script
  cases hfile
  rw [report_loaded]
  rcases hends catalog with ⟨ds, hds⟩ | ⟨e, he⟩
  · rw [hds]
    exact ⟨_, rfl⟩
  · exfalso
    apply hwell
    rw [dependencies] at he
    cases hread : Script.read (Text.toBytes content) with
    | error e' => exact ⟨content, e', rfl, hread⟩
    | ok s =>
      rw [hread] at he
      dsimp only at he
      split at he <;> cases he

end

/-! ## All scripts -/

/-- A catalog that was loaded is loaded again at once. -/
theorem load_load (s : Session) : s.load.value.2.load.value = s.load.value := by
  obtain ⟨config, ⟨load, requests⟩, generation, reply, earlier, waiting, results⟩ := s
  rcases load with _ | _ | _ | o <;> rcases hprepare : config.prepare with ⟨e | q, records⟩ <;>
    simp [Session.load, Cluster.Loader.demand, Cluster.Loader.start, Cluster.Loader.settle,
      hprepare]

/-- The scripts are analyzed as if the catalog had been there before. -/
theorem analyzeScripts_value (s : Session) (results : List (Text × Json))
    (scripts : List (Path × Entry)) :
    (analyzeScripts s results scripts).value.1 =
      (scripts.mapM (report s.load.value.1)).map
        fun entries => entries.foldl (fun members x => Json.insert x.1 x.2 members) results := by
  induction scripts generalizing s results with
  | nil => rfl
  | cons script scripts ih =>
    obtain ⟨p, content | entries⟩ := script
    · have hagain : s.load.value.2.load.value.1 = s.load.value.1 := by rw [load_load]
      rw [List.mapM_cons, report, analyzeScripts, Session.find]
      simp only [Logged.bind_value, Logged.pure_value]
      cases hfind : (findAfter (Text.toBytes content) s.load.value.1).value with
      | error e => rfl
      | ok ds =>
        simp only [Logged.bind_value]
        rw [ih, hagain]
        cases scripts.mapM (report s.load.value.1) <;> rfl
    · rfl

/-- The requests afterwards are those before, or those after one load. -/
theorem analyzeScripts_session (s : Session) (results : List (Text × Json))
    (scripts : List (Path × Entry)) :
    (analyzeScripts s results scripts).value.2 = s ∨
      (analyzeScripts s results scripts).value.2 = s.load.value.2 := by
  induction scripts generalizing s results with
  | nil => exact Or.inl rfl
  | cons script scripts ih =>
    obtain ⟨p, content | entries⟩ := script
    · rw [analyzeScripts, Session.find]
      simp only [Logged.bind_value, Logged.pure_value]
      cases hfind : (findAfter (Text.toBytes content) s.load.value.1).value with
      | error e => exact Or.inr rfl
      | ok ds =>
        simp only [Logged.bind_value]
        right
        rcases ih s.load.value.2 (Json.insert p.text (.array (ds.map Dependency.toJson)) results)
          with hsame | hloaded
        · exact hsame
        · rw [hloaded, load_load]
    · exact Or.inl rfl

/-! ## The object -/

/-- The members of the object tell about the scripts. -/
structure Tells (catalog : Catalog) (scripts : List (Path × Entry))
    (members : List (Text × Json)) : Prop where
  /-- There is one for every path, in the order in which the paths come up first. -/
  names : members.map (·.1) = (scripts.map (·.1.text)).eraseDups
  /-- Each of them tells about the last of the scripts that have this path. -/
  about : ∀ member ∈ members, ∃ before script after, scripts = before ++ script :: after ∧
    (∀ other ∈ after, other.1.text ≠ script.1.text) ∧ TellsOf catalog script member
  /-- All scripts were analyzed. -/
  analyzed : ∀ script ∈ scripts, ∃ member, TellsOf catalog script member

theorem TellsOf.name {catalog : Catalog} {script : Path × Entry} {member : Text × Json}
    (h : TellsOf catalog script member) : member.1 = script.1.text := by
  obtain ⟨content, ds, -, -, rfl⟩ := h
  rfl

section

variable {catalog : Catalog} {scripts : List (Path × Entry)} {entries : List (Text × Json)}

theorem names_of_told (h : List.Forall₂ (TellsOf catalog) scripts entries) :
    entries.map (·.1) = scripts.map (·.1.text) := by
  induction h with
  | nil => rfl
  | cons hmember _ ih => rw [List.map_cons, List.map_cons, hmember.name, ih]

/-- What stands behind a member tells about what stands behind its script. -/
theorem exists_script_of_split {before after : List (Text × Json)} {member : Text × Json}
    (h : List.Forall₂ (TellsOf catalog) scripts (before ++ member :: after)) :
    ∃ first script rest, scripts = first ++ script :: rest ∧ TellsOf catalog script member ∧
      List.Forall₂ (TellsOf catalog) rest after := by
  have hrest := List.forall₂_drop_append scripts before (member :: after) h
  obtain ⟨script, rest, hscript, hafter, hdrop⟩ := List.forall₂_cons_right_iff.1 hrest
  refine ⟨scripts.take before.length, script, rest, ?_, hscript, hafter⟩
  rw [← hdrop, List.take_append_drop]

theorem tells_of_told (h : List.Forall₂ (TellsOf catalog) scripts entries) :
    Tells catalog scripts (Json.collect entries) := by
  constructor
  case names =>
    rw [Json.keys_collect, names_of_told h]
  case about =>
    intro member hmember
    obtain ⟨before, after, rfl, hlast⟩ := Json.mem_collect_iff.1 hmember
    obtain ⟨first, script, rest, hsplit, hscript, hafter⟩ := exists_script_of_split h
    refine ⟨first, script, rest, hsplit, ?_, hscript⟩
    intro other hother hsame
    apply hlast
    rw [names_of_told hafter, hscript.name, ← hsame]
    exact List.mem_map_of_mem hother
  case analyzed =>
    intro script hscript
    obtain ⟨member, -, htells⟩ := exists_left_of_mem h.flip hscript
    exact ⟨member, htells⟩

/-- If scripts of the same path are the same, each of them is told about. -/
theorem Tells.told {members : List (Text × Json)} (h : Tells catalog scripts members)
    (hsame : ∀ a ∈ scripts, ∀ b ∈ scripts, a.1.text = b.1.text → a = b) :
    ∀ script ∈ scripts, ∃ member ∈ members, TellsOf catalog script member := by
  intro script hscript
  have hname : script.1.text ∈ members.map (·.1) := by
    rw [h.names, List.mem_eraseDups]
    exact List.mem_map.2 ⟨script, hscript, rfl⟩
  obtain ⟨member, hmember, hnamed⟩ := List.mem_map.1 hname
  -- the member of this name tells about a script of the same path
  obtain ⟨before, other, after, hsplit, -, htells⟩ := h.about member hmember
  have hother : other ∈ scripts := by simp [hsplit]
  have heq := hsame other hother script hscript (htells.name.symm.trans hnamed)
  exact ⟨member, hmember, heq ▸ htells⟩

end

/-- A result that was reported about scripts tells about them. -/
theorem tells_of_reported {o : Outcome} {scripts : List (Path × Entry)}
    {entries : List (Text × Json)} (h : scripts.mapM (report o) = .ok entries) :
    ∃ catalog, (scripts ≠ [] → o = .ok catalog) ∧ Tells catalog scripts (Json.collect entries) := by
  have hreported := forall₂_mapM h
  cases o with
  | ok catalog =>
    refine ⟨catalog, fun _ => rfl, tells_of_told ?_⟩
    refine hreported.imp ?_
    intro script member hmember
    obtain ⟨other, hother, htells⟩ := report_eq_ok_iff.1 hmember
    cases hother
    exact htells
  | error e =>
    -- without a catalog there is a result only if there are no scripts
    cases hreported with
    | nil => exact ⟨{}, fun hne => absurd rfl hne, tells_of_told List.Forall₂.nil⟩
    | cons hmember _ =>
      obtain ⟨catalog, hloaded, -⟩ := report_eq_ok_iff.1 hmember
      cases hloaded

/-! ## The end of a run -/

/-- How a run ends that found these scripts, after a load. -/
def conclude (o : Outcome) : Except PathError (List (Path × Entry)) → Ending
  | .error e => .ofPath e
  | .ok scripts =>
    match scripts.mapM (report o) with
    | .error e => e
    | .ok entries => .done (printed (.object (Json.collect entries)))

theorem printDependencies_value (w : Surroundings) (s : Session) (files : List Text) :
    (printDependencies w s files).value.1 =
      conclude s.load.value.1 (scriptsAtAll w.find files) := by
  rw [printDependencies]
  cases scriptsAtAll w.find files with
  | error e => rfl
  | ok scripts =>
    have hvalue := analyzeScripts_value s [] scripts
    simp only [conclude, Logged.bind_value]
    rw [hvalue]
    cases scripts.mapM (report s.load.value.1) <;> rfl

/-- A run sends nothing, or what a load sends. -/
theorem printDependencies_requests (w : Surroundings) (s : Session) (files : List Text) :
    (printDependencies w s files).value.2 = s.requests ∨
      (∃ script rest, scriptsAtAll w.find files = .ok (script :: rest)) ∧
        (printDependencies w s files).value.2 = s.load.value.2.requests := by
  rw [printDependencies]
  cases scriptsAtAll w.find files with
  | error e => exact Or.inl rfl
  | ok scripts =>
    cases scripts with
    | nil => exact Or.inl rfl
    | cons script rest =>
      have hsession := analyzeScripts_session s [] (script :: rest)
      dsimp only
      rw [Logged.bind_value]
      generalize (analyzeScripts s [] (script :: rest)).value = reached at hsession ⊢
      obtain ⟨r, s'⟩ := reached
      dsimp only at hsession
      rcases hsession with hsame | hloaded
      · left
        rw [← hsame]
        cases r <;> rfl
      · right
        rw [← hloaded]
        exact ⟨⟨script, rest, rfl⟩, by cases r <;> rfl⟩

/-- The words ask for the dependencies of the scripts under paths, and there is a configuration. -/
def Analyzes (w : Surroundings) (words : List Text) (c : Config) (files : List Text) : Prop :=
  ∃ settings, CommandLine.read words = .ok (.task settings (.analyze files)) ∧
    (config w settings).value = .ok c

section

variable {w : Surroundings} {words files : List Text} {c : Config}

theorem run_eq (h : Analyzes w words c files) :
    (run w words).ending = (printDependencies w (.fresh c w.reply) files).value.1 ∧
      (run w words).requests = (printDependencies w (.fresh c w.reply) files).value.2 := by
  obtain ⟨settings, hread, hconfig⟩ := h
  have hperform : (perform w settings (.analyze files)).value =
      (printDependencies w (.fresh c w.reply) files).value := by
    rw [perform, Logged.bind_value, hconfig]
    rfl
  rw [run, hread]
  dsimp only
  rw [hperform]
  exact ⟨rfl, rfl⟩

/-- How a run ends is decided by the scripts that it finds and by what is fetched. -/
theorem ending_eq (h : Analyzes w words c files) :
    (run w words).ending = conclude (c.fetched w.reply) (scriptsAtAll w.find files) := by
  rw [(run_eq h).1, printDependencies_value]
  rfl

theorem requests_eq (h : Analyzes w words c files) :
    (run w words).requests = [] ∨
      (∃ script rest, scriptsAtAll w.find files = .ok (script :: rest)) ∧
        (run w words).requests = c.sent w.reply := by
  rw [(run_eq h).2]
  exact printDependencies_requests w (.fresh c w.reply) files

/-- Nothing is sent if no scripts are found. -/
theorem requests_eq_nil (h : Analyzes w words c files)
    (hnone : ∀ script rest, scriptsAtAll w.find files ≠ .ok (script :: rest)) :
    (run w words).requests = [] := by
  rcases requests_eq h with hunsent | ⟨⟨script, rest, hscripts⟩, -⟩
  · exact hunsent
  · exact absurd hscripts (hnone script rest)

theorem length_sent_le (c : Config) (r : Reply) : (c.sent r).length ≤ 1 := by
  rw [Cluster.sent_eq]
  cases c.prepare.value with
  | error e => exact Nat.zero_le 1
  | ok q => exact Nat.le_refl 1

/-! ## Paths to nothing -/

theorem scriptsAt_missing {t : Text} (h : w.find (.ofText t) = .missing) :
    scriptsAt w.find t = .error (.missing t) := by
  rw [scriptsAt, h]

theorem scriptsAt_tooLong {t : Text} (h : w.find (.ofText t) = .tooLong) :
    scriptsAt w.find t = .error (.tooLong (.ofText t)) := by
  rw [scriptsAt, h]

theorem scriptsAtAll_eq_error {e : PathError} :
    scriptsAtAll w.find files = .error e ↔ files.mapM (scriptsAt w.find) = .error e := by
  rw [scriptsAtAll]
  cases files.mapM (scriptsAt w.find) with
  | error e' =>
    constructor
    · intro h
      cases h
      rfl
    · intro h
      cases h
      rfl
  | ok found => exact iff_of_false nofun nofun

/-- The first path that stands for no scripts is told about. -/
theorem scriptsAtAll_stopped {before after : List Text} {t : Text} {e : PathError}
    (hfiles : files = before ++ t :: after)
    (hbefore : ∀ u ∈ before, ∃ found, scriptsAt w.find u = .ok found)
    (ht : scriptsAt w.find t = .error e) : scriptsAtAll w.find files = .error e := by
  rw [scriptsAtAll_eq_error, mapM_eq_error]
  exact ⟨before, t, after, hfiles, hbefore, ht⟩

/-- A path that leads to nothing is enough to find no scripts. -/
theorem exists_pathError {t : Text} (hmem : t ∈ files) (ht : ∀ e, w.find (.ofText t) ≠ .entry e) :
    ∃ e, scriptsAtAll w.find files = .error e := by
  have hstops : ∃ e, scriptsAt w.find t = .error e := by
    cases hfind : w.find (.ofText t) with
    | missing => exact ⟨_, scriptsAt_missing hfind⟩
    | tooLong => exact ⟨_, scriptsAt_tooLong hfind⟩
    | entry e => exact absurd hfind (ht e)
  obtain ⟨e, he⟩ := mapM_fails.2 ⟨t, hmem, hstops⟩
  exact ⟨e, scriptsAtAll_eq_error.2 he⟩

end

/-! ## Scripts that end a run -/

section

variable {o : Outcome} {scripts : List (Path × Entry)}

/-- Of the members with a property, one is the first. -/
theorem exists_first {α : Type} {P : α → Prop} {xs : List α} (h : ∃ x ∈ xs, P x) :
    ∃ before x after, xs = before ++ x :: after ∧ (∀ y ∈ before, ¬ P y) ∧ P x := by
  induction xs with
  | nil =>
    obtain ⟨x, hx, -⟩ := h
    exact absurd hx List.not_mem_nil
  | cons first rest ih =>
    by_cases hfirst : P first
    · exact ⟨[], first, rest, rfl, nofun, hfirst⟩
    · have hrest : ∃ x ∈ rest, P x := by
        obtain ⟨x, hx, hP⟩ := h
        rcases List.mem_cons.1 hx with rfl | hx
        · exact absurd hP hfirst
        · exact ⟨x, hx, hP⟩
      obtain ⟨before, x, after, rfl, hbefore, hx⟩ := ih hrest
      refine ⟨first :: before, x, after, rfl, ?_, hx⟩
      intro y hy
      rcases List.mem_cons.1 hy with rfl | hy
      · exact hfirst
      · exact hbefore y hy

/-- The first script that adds nothing to the result ends the run. -/
theorem conclude_stopped {before after : List (Path × Entry)} {script : Path × Entry} {e : Ending}
    (hscripts : scripts = before ++ script :: after)
    (hbefore : ∀ s ∈ before, ∃ member, report o s = .ok member)
    (hscript : report o script = .error e) : conclude o (.ok scripts) = e := by
  have hmap : scripts.mapM (report o) = .error e :=
    mapM_eq_error.2 ⟨before, script, after, hscripts, hbefore, hscript⟩
  rw [conclude, hmap]

theorem conclude_reported {entries : List (Text × Json)}
    (h : scripts.mapM (report o) = .ok entries) :
    conclude o (.ok scripts) = .done (printed (.object (Json.collect entries))) := by
  rw [conclude, h]

/-- Without a catalog, the first file ends the run. -/
theorem conclude_unloaded (e : LoadError) (p : Path) (content : List Nat)
    (rest : List (Path × Entry)) :
    conclude (.error e) (.ok ((p, .file content) :: rest)) = .ofLoad e := by
  have hfirst : (p, Entry.file content) :: rest = [] ++ (p, .file content) :: rest := rfl
  exact conclude_stopped hfirst nofun (report_unloaded e)

/-- A run that does not end in vain has a result. -/
theorem exists_result {found : Except PathError (List (Path × Entry))}
    (h : ¬ (conclude o found).Vain) :
    ∃ scripts catalog members, found = .ok scripts ∧ (scripts ≠ [] → o = .ok catalog) ∧
      Tells catalog scripts members ∧ conclude o found = .done (printed (.object members)) := by
  cases found with
  | error e => exact absurd (vain_ofPath e) h
  | ok scripts =>
    cases hmap : scripts.mapM (report o) with
    | error e =>
      obtain ⟨before, script, after, -, -, hscript⟩ := mapM_eq_error.1 hmap
      rw [conclude, hmap] at h
      exact absurd (vain_of_report hscript) h
    | ok entries =>
      obtain ⟨catalog, hcatalog, htells⟩ := tells_of_reported hmap
      exact ⟨scripts, catalog, _, rfl, hcatalog, htells, conclude_reported hmap⟩

/-- If some scripts are malformed, the first of them ends the run. -/
theorem conclude_malformed {catalog : Catalog} (hall : ∀ s ∈ scripts, Analyzable s)
    (hsome : ∃ s ∈ scripts, Malformed s) :
    ∃ before p content after e, scripts = before ++ (p, .file content) :: after ∧
      (∀ s ∈ before, ¬ Malformed s) ∧ Script.read (Text.toBytes content) = .error e ∧
      conclude (.ok catalog) (.ok scripts) =
        .refused 1 (lit "Error: " ++ p.text ++ lit ": " ++ e.text ++ [0x0A]) := by
  obtain ⟨before, script, after, hsplit, hbefore, hmalformed⟩ := exists_first hsome
  obtain ⟨p, entry⟩ := script
  obtain ⟨content, e, hfile, hread⟩ := hmalformed
  cases hfile
  refine ⟨before, p, content, after, e, hsplit, hbefore, hread, ?_⟩
  apply conclude_stopped hsplit
  · intro s hs
    have hmem : s ∈ scripts := by simp [hsplit, hs]
    exact exists_report catalog (hall s hmem) (hbefore s hs)
  · exact report_malformed hread

/-- If there is a catalog, or no script that needs it, and no script is malformed, there is a
result. -/
theorem conclude_completed (hcatalog : scripts = [] ∨ ∃ catalog, o = .ok catalog)
    (hall : ∀ s ∈ scripts, Analyzable s ∧ ¬ Malformed s) :
    ∃ entries, scripts.mapM (report o) = .ok entries := by
  refine exists_mapM_iff.2 fun s hs => ?_
  rcases hcatalog with rfl | ⟨catalog, rfl⟩
  · exact absurd hs List.not_mem_nil
  · exact exists_report catalog (hall s hs).1 (hall s hs).2

end

/-! ## The result -/

/-- What a run does that analyzes the scripts under paths for a cluster. -/
structure Reports (w : Surroundings) (c : Config) (files : List Text) (r : Run) : Prop where
  /-- At most one request is sent. -/
  single : r.requests.length ≤ 1
  /-- None is sent if a path leads to nothing, or if there is no script. -/
  unsent : (∃ t ∈ files, ∀ e, w.find (.ofText t) ≠ .entry e) ∨
    scriptsAtAll w.find files = .ok [] → r.requests = []
  /-- The first path that leads to nothing ends the run. -/
  missing : ∀ before t after, files = before ++ t :: after →
    (∀ u ∈ before, ∃ found, scriptsAt w.find u = .ok found) → w.find (.ofText t) = .missing →
    r.ending = .refused 1 (lit "Error: Path not found: " ++ t ++ [0x0A])
  /-- The first path that is too long to be looked up breaks it off. -/
  overlong : ∀ before t after, files = before ++ t :: after →
    (∀ u ∈ before, ∃ found, scriptsAt w.find u = .ok found) → w.find (.ofText t) = .tooLong →
    r.ending = .fault (.pathTooLong (.ofText t))
  /-- If anything is printed or the code is that of success, what is printed is an object that tells
  about all scripts, and if paths lead to the entries of a proper tree, about each of them. -/
  printed : r.ending.output ≠ [] ∨ r.ending.code? = some 0 → ∃ scripts catalog members,
    scriptsAtAll w.find files = .ok scripts ∧
    (scripts ≠ [] → c.fetched w.reply = .ok catalog) ∧
    Tells catalog scripts members ∧
    (∀ tree : Entry, tree.Proper → w.find = tree.find →
      ∀ script ∈ scripts, ∃ member ∈ members, TellsOf catalog script member) ∧
    r.ending = .done (printed (.object members))
  /-- Without a catalog, the first file ends the run, whatever the files hold. -/
  uncatalogued : ∀ p content rest e, scriptsAtAll w.find files = .ok ((p, .file content) :: rest) →
    c.fetched w.reply = .error (.catalog e) →
    r.ending = .refused 2 (lit "Error: could not load module list: " ++ e.message ++ [0x0A])
  /-- An error that says nothing of the catalog breaks the run off. -/
  broken : ∀ p content rest e, scriptsAtAll w.find files = .ok ((p, .file content) :: rest) →
    c.fetched w.reply = .error e → (∀ reason, e ≠ .catalog reason) → r.ending = .fault (.load e)
  /-- With a catalog, the first file that is malformed ends the run. -/
  malformed : ∀ scripts catalog, scriptsAtAll w.find files = .ok scripts →
    c.fetched w.reply = .ok catalog → (∀ s ∈ scripts, Analyzable s) →
    (∃ s ∈ scripts, Malformed s) →
    ∃ before p content after e, scripts = before ++ (p, .file content) :: after ∧
      (∀ s ∈ before, ¬ Malformed s) ∧ Script.read (Text.toBytes content) = .error e ∧
      r.ending = .refused 1 (lit "Error: " ++ p.text ++ lit ": " ++ e.text ++ [0x0A])
  /-- Otherwise all goes well. -/
  completed : ∀ scripts, scriptsAtAll w.find files = .ok scripts →
    (scripts = [] ∨ ∃ catalog, c.fetched w.reply = .ok catalog) →
    (∀ s ∈ scripts, Analyzable s ∧ ¬ Malformed s) → r.ending.code? = some 0

/-- Every run that analyzes scripts reports on them in this way. -/
theorem run_reports {w : Surroundings} {words files : List Text} {c : Config}
    (h : Analyzes w words c files) : Reports w c files (run w words) := by
  have hending := ending_eq h
  constructor
  case single =>
    rcases requests_eq h with hnone | ⟨-, hsent⟩
    · rw [hnone]
      exact Nat.zero_le 1
    · rw [hsent]
      exact length_sent_le c w.reply
  case unsent =>
    intro hnothing
    refine requests_eq_nil h fun script rest hscripts => ?_
    rcases hnothing with ⟨t, hmem, ht⟩ | hempty
    · obtain ⟨e, he⟩ := exists_pathError hmem ht
      rw [he] at hscripts
      cases hscripts
    · rw [hempty] at hscripts
      cases hscripts
  case missing =>
    intro before t after hfiles hbefore ht
    rw [hending, scriptsAtAll_stopped hfiles hbefore (scriptsAt_missing ht)]
    rfl
  case overlong =>
    intro before t after hfiles hbefore ht
    rw [hending, scriptsAtAll_stopped hfiles hbefore (scriptsAt_tooLong ht)]
    rfl
  case printed =>
    intro hprinted
    have hnotVain : ¬ (run w words).ending.Vain := by
      rintro ⟨houtput, hcode⟩
      exact hprinted.elim (fun h => h houtput) hcode
    rw [hending] at hnotVain ⊢
    obtain ⟨scripts, catalog, members, hscripts, hcatalog, htells, hresult⟩ :=
      exists_result hnotVain
    refine ⟨scripts, catalog, members, hscripts, hcatalog, htells, ?_, hresult⟩
    intro tree htree hfind
    apply htells.told
    intro a ha b hb htext
    rw [hfind] at hscripts
    exact scripts_determined htree hscripts ha hb htext
  case uncatalogued =>
    intro p content rest e hscripts hfetched
    rw [hending, hscripts, hfetched]
    exact conclude_unloaded _ p content rest
  case broken =>
    intro p content rest e hscripts hfetched hother
    have hload : Ending.ofLoad e = .fault (.load e) := by
      cases e with
      | catalog reason => exact absurd rfl (hother reason)
      | badUrl reason => rfl
      | unencodable reason => rfl
      | other kind message => rfl
    rw [hending, hscripts, hfetched, ← hload]
    exact conclude_unloaded e p content rest
  case malformed =>
    intro scripts catalog hscripts hfetched hall hsome
    rw [hending, hscripts, hfetched]
    exact conclude_malformed hall hsome
  case completed =>
    intro scripts hscripts hcatalog hall
    obtain ⟨entries, hmap⟩ := conclude_completed hcatalog hall
    rw [hending, hscripts, conclude_reported hmap]
    rfl

/-- What a run finds around it if there is one script, which is empty, and the environment has the
settings of a cluster without modules. -/
def loneScript (clusterUrl : Text) : Surroundings where
  environment := [(lit "WEBTASK_CLUSTER_URL", clusterUrl), (lit "WEBTASK_CONTAINER", lit "box"),
    (lit "WEBTASK_TOKEN", lit "key")]
  profilePath := lit ".webtask"
  profiles := .missing
  find := (Entry.directory [(lit "a", .file [])]).find
  reply := .response 200 (Text.encode
    (lit "\x7b\"nativeModuleNames\": [], \"verquireModules\": \x7b\x7d\x7d"))

/-- A legal address. -/
def soundUrl : Text := lit "http://cluster"

/-- An address in which a name stands where the port should be. -/
def portlessUrl : Text := lit "http://cluster:port"

/-- The words that ask for the dependencies of that script. -/
def loneWords : List Text := [lit "analyze", lit "a"]

/-- The configuration that the environment gives. -/
def loneConfig (clusterUrl : Text) (h : clusterUrl ≠ []) : Config where
  clusterUrl
  container := lit "box"
  token := lit "key"
  clusterUrl_ne := h
  container_ne := by decide
  token_ne := by decide

/-- The script is reported on, with one request. -/
theorem reports_loneScript :
    Reports (loneScript soundUrl) (loneConfig soundUrl (by decide)) [lit "a"]
      (run (loneScript soundUrl) loneWords) ∧
    (run (loneScript soundUrl) loneWords).requests.length = 1 ∧
    (run (loneScript soundUrl) loneWords).ending.output =
      lit "\x7b\n  \"a\": []\n\x7d\n" := by
  have hreads : CommandLine.read loneWords = .ok (.task {} (.analyze [lit "a"])) := by
    decide +kernel
  refine ⟨run_reports ⟨{}, hreads, rfl⟩, ?_, ?_⟩
  · decide +kernel
  · decide +kernel

/-- A name that no entry can have. -/
def overlongName : Text := List.replicate 256 0x61

/-- A run breaks off, without a code, if the address of the cluster is refused, and if a path that
leads to nothing is too long to be looked up. -/
theorem not_all_runs_exit :
    (¬ ∀ (w : Surroundings) (words files : List Text) (c : Config) (scripts : List (Path × Entry)),
      Analyzes w words c files → scriptsAtAll w.find files = .ok scripts →
      (∀ s ∈ scripts, Analyzable s) → (run w words).ending.code? ≠ none) ∧
    ¬ ∀ (w : Surroundings) (words : List Text) (c : Config) (t : Text),
      Analyzes w words c [t] → (∀ e, w.find (.ofText t) ≠ .entry e) →
      (run w words).ending.code? = some 1 := by
  constructor
  · intro h
    have hreads : CommandLine.read loneWords = .ok (.task {} (.analyze [lit "a"])) := by
      decide +kernel
    have hends : Ends (dependencies (Text.toBytes []) {}) := by decide +kernel
    have hscripts : ∀ s ∈ [(Path.ofText (lit "a"), Entry.file [])], Analyzable s := by
      intro s hs
      rw [List.mem_singleton] at hs
      subst hs
      exact ⟨[], rfl, fun catalog => ends_of_ends hends⟩
    have hcode : (run (loneScript portlessUrl) loneWords).ending.code? = none := by
      decide +kernel
    exact h (loneScript portlessUrl) loneWords [lit "a"]
      (loneConfig portlessUrl (by decide)) _ ⟨{}, hreads, rfl⟩ rfl hscripts hcode
  · intro h
    have hreads : CommandLine.read [lit "analyze", overlongName] =
        .ok (.task {} (.analyze [overlongName])) := by
      decide +kernel
    have hpath : Path.ofText overlongName = ⟨[], [overlongName]⟩ := by decide +kernel
    have hlong : Path.isNameTooLong overlongName = true := by decide +kernel
    have hshort : Path.isTooLong ⟨[], [overlongName]⟩ = false := by decide +kernel
    have hup : overlongName ≠ Path.up := by decide
    have hfind : (loneScript soundUrl).find (.ofText overlongName) = .tooLong := by
      simp [loneScript, Entry.find, Entry.walk, hpath, hlong, hshort, hup]
    have hnothing : ∀ e, (loneScript soundUrl).find (.ofText overlongName) ≠ .entry e := by
      intro e he
      rw [hfind] at he
      cases he
    have hcode : (run (loneScript soundUrl) [lit "analyze", overlongName]).ending.code? = none := by
      decide +kernel
    have hexit := h (loneScript soundUrl) [lit "analyze", overlongName]
      (loneConfig soundUrl (by decide)) overlongName ⟨{}, hreads, rfl⟩ hnothing
    rw [hcode] at hexit
    cases hexit

end ScriptDeps.Program

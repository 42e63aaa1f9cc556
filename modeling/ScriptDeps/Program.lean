import ScriptDeps.Cluster.Profile
import ScriptDeps.Cluster.Session
import ScriptDeps.CommandLine.Reading
import ScriptDeps.Files.Scripts
import ScriptDeps.Json.Printer
import ScriptDeps.Log.Layout

namespace ScriptDeps.Program

open Cluster (Config Session Reply Request LoadError FindError)
open CommandLine (Settings Task Page UsageError)
open Syntax (SyntaxError TextError)
open Text (lit)

/-! # The program

A run reads a command line, takes the configuration of a cluster, and prints the modules of the
cluster or the dependencies of scripts. What it finds around it is given, and what it does is its
result.
-/

/-! ## What a run is given and what it leads to -/

/-- What a run finds around it. -/
structure Surroundings where
  /-- The variables of the environment. -/
  environment : List (Text × Text)
  /-- Where the profiles are. -/
  profilePath : Text
  profiles : Cluster.FileContent
  /-- What paths lead to. -/
  find : Path → Entry.Found
  /-- What the cluster replies to every request. -/
  reply : Reply

/-- Why a run breaks off. -/
inductive Fault where
  | pathTooLong (p : Path)
  /-- A directory bears the name of a script. -/
  | isDirectory (p : Path)
  /-- The catalog could not be asked for. -/
  | load (e : LoadError)
  /-- A script cannot be read as text. -/
  | unreadable (e : TextError)

/-- A fault in words. -/
def Fault.message : Fault → Text
  | pathTooLong p => lit "[Errno 36] File name too long: " ++ Text.quoted p.text
  | isDirectory p => lit "[Errno 21] Is a directory: " ++ Text.quoted p.text
  | load e => e.message
  | unreadable e => e.message

/-- How a run ends. -/
inductive Ending where
  /-- All went well and this is printed. -/
  | done (output : Text)
  /-- The run ends with a code and a message. -/
  | refused (code : Nat) (message : Text)
  | fault (f : Fault)

namespace Ending

/-- The code that the run ends with, if it does not break off. -/
def code? : Ending → Option Nat
  | done _ => some 0
  | refused code _ => some code
  | fault _ => none

/-- What is printed as the result. -/
def output : Ending → Text
  | done t => t
  | _ => []

/-- What is printed as a message. -/
def message : Ending → Text
  | refused _ t => t
  | _ => []

/-- What has been asked for is wrong. -/
def ofUsage (e : UsageError) : Ending := refused 2 e.text

end Ending

/-- A run. -/
structure Run where
  ending : Ending
  level : Log.Level := .warning
  records : List Log.Record := []
  requests : List Request := []

/-- All that is written beside the result: the log and then the message. -/
def Run.messages (r : Run) (onTerminal : Bool) (time : Text) : Text :=
  (Log.Setup.mk r.level.number onTerminal).write time r.records ++ r.ending.message

/-! ## Configuration -/

/-- The configuration of the cluster: that of the environment or else that of the profile. -/
def config (w : Surroundings) (s : Settings) : Logged (Except Text Config) := do
  match ← Config.ofEnvironment w.environment with
  | .error e => return .error e.message
  | .ok (some c) => return .ok c
  | .ok none =>
    match ← Config.ofProfile s.profile w.profilePath w.profiles with
    | .error e => return .error e.message
    | .ok c => return .ok c

/-! ## Modules -/

/-- A JSON value on lines of its own. -/
def printed (j : Json) : Text := j.indented 0 ++ [0x0A]

/-- The end of a run that got no catalog. -/
def Ending.ofLoad : LoadError → Ending
  | .catalog e => .refused 2 (lit "Error: could not load module list: " ++ e.message ++ [0x0A])
  | e => .fault (.load e)

/-- Prints the modules of the cluster. -/
def printModules (s : Session) : Logged (Ending × List Request) := do
  let (o, s) ← s.load
  match o with
  | .ok catalog => return (.done (printed catalog.toJson), s.requests)
  | .error e => return (.ofLoad e, s.requests)

/-! ## Scripts -/

/-- The end of a run that was given a path to nothing. -/
def Ending.ofPath : PathError → Ending
  | .missing text => .refused 1 (lit "Error: Path not found: " ++ text ++ [0x0A])
  | .tooLong p => .fault (.pathTooLong p)

/-- The end of a run in which a script could not be analyzed. -/
def Ending.ofFind (p : Path) : FindError → Ending
  | .load e => .ofLoad e
  | .analysis (.invalid e) =>
    .refused 1 (lit "Error: " ++ p.text ++ lit ": " ++ e.text ++ [0x0A])
  | .analysis (.unreadable e) => .fault (.unreadable e)

/-- What is noted about a script that was analyzed. -/
def noteScript (p : Path) (ds : List Dependency) : Logged Unit :=
  Logged.note .info (lit "webtask_analyzer.__main__")
    (p.text ++ lit ": " ++ Text.ofNat ds.length ++ lit " dependencies")

/-- Analyzes scripts one after the other. The results so far are the members of an object, so a
script that comes twice is in it once. -/
def analyzeScripts (s : Session) (results : List (Text × Json)) :
    List (Path × Entry) → Logged (Except Ending (List (Text × Json)) × Session)
  | [] => return (.ok results, s)
  | (p, .directory _) :: _ => return (.error (.fault (.isDirectory p)), s)
  | (p, .file content) :: rest => do
    let (r, s) ← s.find (Text.toBytes content)
    match r with
    | .error e => return (.error (.ofFind p e), s)
    | .ok ds =>
      noteScript p ds
      analyzeScripts s (Json.insert p.text (.array (ds.map Dependency.toJson)) results) rest

/-- Prints the dependencies of the scripts under paths. -/
def printDependencies (w : Surroundings) (s : Session) (files : List Text) :
    Logged (Ending × List Request) :=
  match scriptsAtAll w.find files with
  | .error e => return (.ofPath e, s.requests)
  | .ok scripts => do
    let (r, s) ← analyzeScripts s [] scripts
    match r with
    | .error e => return (e, s.requests)
    | .ok results => return (.done (printed (.object results)), s.requests)

/-! ## Runs -/

/-- Does what the program was asked to do. -/
def perform (w : Surroundings) (s : Settings) (t : Task) : Logged (Ending × List Request) := do
  match ← config w s with
  | .error reason => return (.ofUsage ⟨.program, .configuration reason⟩, [])
  | .ok c =>
    let session : Session := { config := c, reply := w.reply }
    match t with
    | .modules => printModules session
    | .analyze files => printDependencies w session files

/-- A run with the words of a command line. -/
def run (w : Surroundings) (words : List Text) : Run :=
  match CommandLine.read words with
  | .error e => { ending := .ofUsage e }
  | .ok (.help p) => { ending := .done p.help }
  | .ok .version =>
    { ending := .done (lit CommandLine.program ++ lit " " ++ lit CommandLine.version ++ [0x0A]) }
  | .ok (.task s t) =>
    let r := perform w s t
    { ending := r.value.1, level := s.level, records := r.records, requests := r.value.2 }

end ScriptDeps.Program

import ScriptDeps.Cluster.Loading
import ScriptDeps.Dependency

namespace ScriptDeps.Cluster

open Text (lit)
open Syntax (TextError)

/-! # Sessions

A session analyzes scripts against the catalog of one cluster, which is loaded when it is needed
first. The cluster gives the same reply to every request until another one is set.
-/

/-! ## What an analysis tells -/

/-- What is noted about the calls in a script. -/
def callsRecord (calls : List Require.Call) : Log.Record :=
  { component := lit "webtask_analyzer._analyzer.require_walker"
    level := Log.Level.debug.number
    message := lit "Found " ++ Text.ofNat calls.length ++ lit " require call(s), " ++
      Text.ofNat (calls.countP (·.dynamic)) ++ lit " dynamic" }

/-- What is noted about the free references in a script. -/
def referencesRecord (references : List Scope.Reference) : Log.Record :=
  { component := lit "webtask_analyzer._analyzer.globals_finder"
    level := Log.Level.debug.number
    message := lit "Found " ++ Text.ofNat references.length ++ lit " global reference(s) to " ++
      Text.ofNat (NameSet.ofList (references.map (·.name))).size ++ lit " name(s)" }

/-- What is noted about a script, as far as it can be read. -/
def analysisRecords (s : Script) : List Log.Record :=
  match s.calls with
  | .error _ => []
  | .ok calls =>
    callsRecord calls ::
      match s.freeReferences with
      | .error _ => []
      | .ok references => [referencesRecord references]

/-- Why the dependencies of a script are not known: there is no catalog, or the script is at
fault. -/
inductive FindError where
  | load (e : LoadError)
  | analysis (e : AnalysisError)

/-- The dependencies of a source against a loaded catalog. -/
def analyze (source : ByteArray) (catalog : Module.Catalog) :
    Logged (Except FindError (List Dependency)) :=
  match Script.read source with
  | .error e => return .error (.analysis (.invalid e))
  | .ok s =>
    match s.dependencies catalog with
    | .error e => ⟨.error (.analysis (.unreadable e)), analysisRecords s⟩
    | .ok ds => ⟨.ok ds, analysisRecords s⟩

/-! ## Callers -/

/-- What a caller asks for. -/
inductive Task where
  /-- The catalog. -/
  | load
  /-- The dependencies of a source. -/
  | find (source : ByteArray)
deriving DecidableEq

/-- Somebody who asks a session for something. -/
structure Caller where
  number : Nat
  task : Task
deriving DecidableEq

/-- What a caller gets. -/
inductive Result where
  | catalog (o : Outcome)
  | dependencies (r : Except FindError (List Dependency))
  /-- The caller gave up. -/
  | cancelled

/-- The dependencies of a source after a load. -/
def findAfter (source : ByteArray) (o : Outcome) :
    Logged (Except FindError (List Dependency)) :=
  match o with
  | .error e => return .error (.load e)
  | .ok catalog => analyze source catalog

/-- What a caller with the task gets after a load. -/
def Task.result (t : Task) (o : Outcome) : Logged Result :=
  match t with
  | load => return .catalog o
  | find source => do return .dependencies (← findAfter source o)

/-! ## Sessions -/

/-- A session. -/
structure Session where
  config : Config
  loader : Loader := {}
  /-- The number of loaders before this one. -/
  generation : Nat := 0
  reply : Reply
  /-- The requests of the loaders before this one. -/
  earlier : List Request := []
  /-- The callers who wait for the load. -/
  waiting : List Caller := []
  /-- What callers got so far. -/
  results : List (Caller × Result) := []

/-- Something that happens to a session. -/
inductive Event where
  /-- A caller asks. -/
  | call (k : Caller)
  /-- The load has its turn. -/
  | turn
  /-- The cluster gives another reply from now on. -/
  | serve (r : Reply)
  /-- The reply of the cluster arrives. -/
  | arrive
  /-- A caller who waits has a turn. -/
  | resume (k : Caller)
  /-- A caller who waits gives up. -/
  | cancel (k : Caller)

namespace Session

/-- The requests so far. -/
def requests (s : Session) : List Request := s.earlier ++ s.loader.requests

/-- The cluster gives another reply from now on. -/
def serve (s : Session) (r : Reply) : Session := { s with reply := r }

/-- Starts anew with a loader that has loaded nothing. -/
def renew (s : Session) : Session :=
  { s with loader := {}, generation := s.generation + 1, earlier := s.requests }

/-! ## Callers together -/

/-- The session after a caller got a result. -/
def grant (s : Session) (k : Caller) (r : Result) : Session :=
  { s with results := s.results ++ [(k, r)] }

/-- The session after a caller who waited got a result. -/
def release (s : Session) (k : Caller) (r : Result) : Session :=
  { s with waiting := s.waiting.erase k }.grant k r

/-- What an event leads to. Only who waits can go on or give up, and nobody goes on before the load
is settled. -/
def step (s : Session) : Event → Logged Session
  | .call k => do
    let l ← s.loader.start s.config
    match l.outcome? with
    | some o => return { s with loader := l }.grant k (← k.task.result o)
    | none => return { s with loader := l, waiting := s.waiting ++ [k] }
  | .turn => return { s with loader := ← s.loader.turn s.config }
  | .serve r => return s.serve r
  | .arrive => return { s with loader := ← s.loader.receive s.config s.reply }
  | .resume k =>
    match s.loader.outcome? with
    | some o =>
      if k ∈ s.waiting then do return s.release k (← k.task.result o)
      else return s
    | none => return s
  | .cancel k => return if k ∈ s.waiting then s.release k .cancelled else s

/-- What events lead to, one after the other. -/
def run (s : Session) : List Event → Logged Session
  | [] => return s
  | e :: rest => do (← s.step e).run rest

/-- Forgets who asked. -/
def forget (s : Session) : Session := { s with results := [] }

end Session

/-- What those get who ask for the catalog. -/
inductive Answer where
  | outcome (o : Outcome)
  | cancelled

namespace Session

/-- The answer to a caller who asked for the catalog. -/
def answerTo (s : Session) (k : Caller) : Answer :=
  match s.results.lookup k with
  | some (.catalog o) => .outcome o
  | _ => .cancelled

/-- Lets a number of callers ask for the catalog together, some of whom give up while the cluster
keeps them waiting. -/
def loadTogether (s : Session) (count : Nat) (cancelled : List Nat) :
    Logged (List Answer × Session) := do
  let callers : List Caller := (List.range count).map fun n => ⟨n, .load⟩
  let early := callers.map Event.call ++ [.turn] ++ callers.map Event.resume
  let late := (cancelled.map fun n => .cancel ⟨n, .load⟩) ++ [.arrive] ++ callers.map Event.resume
  let s ← s.run (early ++ late)
  return (callers.map s.answerTo, s.forget)

/-! ## One caller at a time -/

/-- Asks for the catalog. -/
def load (s : Session) : Logged (Outcome × Session) := do
  let (o, l) ← s.loader.demand s.config s.reply
  return (o, { s with loader := l })

/-- The dependencies of a source. The catalog is loaded before the source is looked at. -/
def find (s : Session) (source : ByteArray) :
    Logged (Except FindError (List Dependency) × Session) := do
  let (o, s) ← s.load
  return (← findAfter source o, s)

end Session

end ScriptDeps.Cluster

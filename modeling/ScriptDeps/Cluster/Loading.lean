import ScriptDeps.Cluster.Fetch

namespace ScriptDeps.Cluster

open Text (lit)

/-! # Loading once

A load is begun when the catalog is asked for the first time. On its turn it sends a request, or it
is settled at once if no request can be made, and the reply settles it. What a load led to, a catalog
or an error, is kept.
-/

/-- How far a load has come. -/
inductive Load where
  /-- It had no turn yet. -/
  | begun
  /-- Its request was sent. -/
  | sent
  | settled (o : Outcome)

/-- A load, if anybody asked for it yet, and the requests that were sent for it. -/
structure Loader where
  load : Option Load := none
  requests : List Request := []

/-- The component that loads are logged by. -/
def analyzerLogger : Text := lit "webtask_analyzer.analyzer"

namespace Loader

/-- Begins a load unless there is one. -/
def start (c : Config) (l : Loader) : Logged Loader :=
  match l.load with
  | some _ => return l
  | none => do
    Logged.note .debug analyzerLogger
      (lit "Starting module list load for " ++ Text.quoted c.container)
    return { l with load := some .begun }

/-- Gives a load that has begun its turn. -/
def turn (c : Config) (l : Loader) : Logged Loader :=
  match l.load with
  | some .begun => do
    match ← c.prepare with
    | .error e => return { l with load := some (.settled (.error e)) }
    | .ok r => return { load := some .sent, requests := l.requests ++ [r] }
  | _ => return l

/-- Takes the reply to the request. A reply that nobody asked for is ignored. -/
def receive (c : Config) (r : Reply) (l : Loader) : Logged Loader :=
  match l.load with
  | some .sent => do
    let o ← c.receive r
    return { l with load := some (.settled o) }
  | _ => return l

/-- What the load led to, if it is settled. -/
def outcome? (l : Loader) : Option Outcome :=
  match l.load with
  | some (.settled o) => some o
  | _ => none

/-- The outcome together with the loader that keeps it. -/
def settle (l : Loader) (o : Outcome) : Outcome × Loader :=
  (o, { l with load := some (.settled o) })

/-- What the load leads to if it has its turn and gets the reply at once. -/
def demand (c : Config) (r : Reply) (l : Loader) : Logged (Outcome × Loader) :=
  match l.load with
  | some (.settled o) => return (o, l)
  | some .sent => return l.settle (← c.receive r)
  | _ => do
    let l ← l.start c
    match ← c.prepare with
    | .error e => return l.settle (.error e)
    | .ok q => return { l with requests := l.requests ++ [q] }.settle (← c.receive r)

end Loader

end ScriptDeps.Cluster

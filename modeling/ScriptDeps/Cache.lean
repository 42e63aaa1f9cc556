import ScriptDeps.Dependency

namespace ScriptDeps

open Syntax (SyntaxError)

/-! # The cache of scripts

Scripts that were read are kept under a key of their source. Two sources may share a key, so a
script that is found counts only if its source is the one that is read. When there are too many
scripts, those that were not used for longest go first.
-/

/-- A script in the cache. Every script that is read gets a serial number of its own. -/
structure Cached (κ : Type) where
  key : κ
  serial : Nat
  script : Script

/-- A cache of scripts. -/
structure Cache (κ : Type) where
  /-- More scripts are not kept. -/
  capacity : Int := 100
  enabled : Bool := true
  /-- The scripts, those first that were not used for longest. -/
  entries : List (Cached κ) := []
  nextSerial : Nat := 0

/-- Why a script cannot be had. -/
inductive CacheError where
  | invalid (e : SyntaxError)
  /-- There were still too many scripts when none was left. -/
  | exhausted
deriving DecidableEq, Repr

namespace Cache

variable {κ : Type} [DecidableEq κ]

/-- The number of scripts. -/
def size (c : Cache κ) : Nat := c.entries.length

/-- Forgets all scripts. -/
def clear (c : Cache κ) : Cache κ := { c with entries := [] }

/-- The entry under a key. -/
def find? (c : Cache κ) (key : κ) : Option (Cached κ) := c.entries.find? fun e => e.key == key

/-- Notes that the entry under a key was used. -/
def touch (c : Cache κ) (key : κ) : Cache κ :=
  { c with entries :=
      c.entries.filter (fun e => e.key != key) ++ c.entries.filter (fun e => e.key == key) }

/-- The script kept under a key, which counts as used. A cache that is not enabled keeps nothing. -/
def get (c : Cache κ) (key : κ) : Option (Cached κ) × Cache κ :=
  if c.enabled then
    match c.find? key with
    | some e => (some e, c.touch key)
    | none => (none, c)
  else (none, c)

/-- Replaces the entry under a key in its place, or adds it as the one that was used last. -/
def store (x : Cached κ) : List (Cached κ) → List (Cached κ)
  | [] => [x]
  | e :: rest => if e.key = x.key then x :: rest else e :: store x rest

/-- Removes the oldest entries until there are no more than the capacity allows. The flag says that
a negative capacity did not allow any number of entries. -/
def evict (c : Cache κ) : Bool × Cache κ :=
  let kept := c.entries.drop (c.size - c.capacity.toNat)
  (c.capacity < 0, { c with entries := kept })

/-- Keeps a script under a key. -/
def put (c : Cache κ) (x : Cached κ) : Bool × Cache κ :=
  if c.enabled then evict { c with entries := store x c.entries } else (false, c)

/-- A script that was just read, with a serial number of its own. -/
def fresh (c : Cache κ) (key : κ) (script : Script) : Cached κ × Cache κ :=
  (⟨key, c.nextSerial, script⟩, { c with nextSerial := c.nextSerial + 1 })

/-- Reads a source and keeps it under the key, or fails if it cannot be kept. -/
def readAnew (c : Cache κ) (key : κ) (source : ByteArray) :
    Except CacheError (Cached κ) × Cache κ :=
  let (x, c) := c.fresh key (Script.ofSource source)
  match c.put x with
  | (true, c) => (.error .exhausted, c)
  | (false, c) => (.ok x, c)

/-- The script of a source, from the cache if it is there, whether or not there are errors in it. -/
def fetch (hash : ByteArray → κ) (c : Cache κ) (source : ByteArray) :
    Except CacheError (Cached κ) × Cache κ :=
  match c.get (hash source) with
  | (some x, c) =>
    if x.script.source = source then (.ok x, c) else c.readAnew (hash source) source
  | (none, c) => c.readAnew (hash source) source

/-- The script of a source that must be free of syntax errors. -/
def read (hash : ByteArray → κ) (c : Cache κ) (source : ByteArray) :
    Except CacheError (Cached κ) × Cache κ :=
  match c.fetch hash source with
  | (.error e, c) => (.error e, c)
  | (.ok x, c) =>
    match x.script.error? with
    | some e => (.error (.invalid e), c)
    | none => (.ok x, c)

end Cache

end ScriptDeps

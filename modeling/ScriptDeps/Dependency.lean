import ScriptDeps.Module.Resolution
import ScriptDeps.Require.Call
import ScriptDeps.Scope.Platform
import ScriptDeps.Scope.Reference
import ScriptDeps.Syntax.Error
import ScriptDeps.Parse.Parser

namespace ScriptDeps

open Syntax (Node SyntaxError TextError)

/-! # Dependencies of a script

A script depends on the modules that it requires and on the names that it uses without declaring
them. All modules come first, then the names.
-/

/-! ## Scripts -/

/-- Sources are compared byte by byte. -/
instance decidableEqSource : DecidableEq ByteArray := ByteArray.instDecidableEq

/-- A source and its syntax tree. -/
structure Script where
  source : ByteArray
  root : Node

namespace Script

/-- Reads a source, whether or not there are errors in it. -/
def ofSource (source : ByteArray) : Script := ⟨source, Parse.parse source⟩

/-- The first syntax error. -/
def error? (s : Script) : Option SyntaxError := Syntax.error? s.source s.root

/-- A script without syntax errors, or the first error. -/
def checked (s : Script) : Except SyntaxError Script :=
  match s.error? with
  | some e => .error e
  | none => .ok s

/-- Reads a source that must be free of syntax errors. -/
def read (source : ByteArray) : Except SyntaxError Script := (ofSource source).checked

/-- The calls of `require`. -/
def calls (s : Script) : Except TextError (List Require.Call) := Require.calls s.source s.root

/-- The free references. -/
def freeReferences (s : Script) : Except TextError (List Scope.Reference) :=
  Scope.freeReferences s.source s.root

end Script

/-! ## Dependencies -/

/-- Something that a script depends on, with the place where it does. -/
inductive Dependency where
  /-- A required module with what it resolves to. -/
  | module (spec : Text) (start stop : Nat) (resolved : Module.Resolved)
  /-- A required module that is known only when the script runs. -/
  | dynamic (spec : Text) (start stop : Nat)
  /-- A name, which the runtime provides or not. -/
  | free (name : Text) (start stop : Nat) (provided : Bool)
deriving DecidableEq, Repr

namespace Dependency

/-- The dependency that a call is. -/
def ofCall (catalog : Module.Catalog) (c : Require.Call) : Dependency :=
  if c.dynamic then .dynamic c.spec c.start c.stop
  else .module c.spec c.start c.stop (Module.resolve catalog (.ofText c.spec))

/-- The dependency that a free reference is. -/
def ofReference (r : Scope.Reference) : Dependency :=
  .free r.name r.start r.stop (Scope.isProvided r.name)

/-- The JSON form of what a name resolves to. -/
def providedJson (provided : Bool) : Json := .ofMembers [("builtIn", .bool provided)]

/-- The JSON form. -/
def toJson (d : Dependency) : Json :=
  let members (kind : String) (spec : Text) (start stop : Nat) : List (String × Json) :=
    [("type", .string (Text.lit kind)), ("spec", .string spec), ("start", .int start),
      ("end", .int stop)]
  match d with
  | .module spec start stop r =>
    .ofMembers (members "require" spec start stop ++ [("resolved", r.toJson)])
  | .dynamic spec start stop => .ofMembers (members "require_dynamic" spec start stop)
  | .free name start stop provided =>
    .ofMembers (members "global" name start stop ++ [("resolved", providedJson provided)])

end Dependency

/-- Why the dependencies of a source are not known. -/
inductive AnalysisError where
  | invalid (e : SyntaxError)
  | unreadable (e : TextError)
deriving DecidableEq, Repr

/-- The dependencies of a script, resolved against a catalog. -/
def Script.dependencies (s : Script) (catalog : Module.Catalog) :
    Except TextError (List Dependency) := do
  let calls ← s.calls
  let references ← s.freeReferences
  return calls.map (.ofCall catalog) ++ references.map .ofReference

/-- The dependencies of a source, resolved against a catalog. -/
def dependencies (source : ByteArray) (catalog : Module.Catalog) :
    Except AnalysisError (List Dependency) :=
  match Script.read source with
  | .error e => .error (.invalid e)
  | .ok s =>
    match s.dependencies catalog with
    | .error e => .error (.unreadable e)
    | .ok ds => .ok ds

end ScriptDeps

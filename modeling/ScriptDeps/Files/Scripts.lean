import ScriptDeps.Files.Tree

namespace ScriptDeps

open Text (lit)

/-! # Scripts under paths

A path to a file stands for that file, whatever its name is. A path to a directory stands for all
that is below it and has the name of a script, in the order of paths.
-/

namespace Path

/-- The extensions of scripts. -/
def scriptExtensions : List Text := [lit ".js", lit ".cjs"]

/-- The directories in which no scripts are looked for. -/
def excludedNames : List Text := [lit "node_modules", lit ".git"]

/-- The path has the name of a script. -/
def hasScriptName (p : Path) : Bool :=
  match p.names.getLast? with
  | some name => scriptExtensions.contains (extension name)
  | none => false

/-- The path leads through an excluded directory. All names of the path count, also those that it
began with before anything was looked for. -/
def isExcluded (p : Path) : Bool := p.names.dropLast.any excludedNames.contains

/-- The path is one of a script. -/
def isScript (p : Path) : Bool := p.hasScriptName && !p.isExcluded

end Path

/-- The paths of the scripts below a directory, with the entries that bear these names. -/
def Entry.scripts (directory : Entry) (p : Path) : List (Path × Entry) :=
  ((directory.descendants.map fun (names, e) => (p.append names, e)).filter
    fun s => s.1.isScript).mergeSort fun a b => !Path.before b.1 a.1

/-- Why a path stands for no scripts. -/
inductive PathError where
  /-- Nothing is there. -/
  | missing (text : Text)
  | tooLong (p : Path)
deriving DecidableEq, Repr

/-- The scripts that a path stands for, if `find` tells what paths lead to. -/
def scriptsAt (find : Path → Entry.Found) (text : Text) : Except PathError (List (Path × Entry)) :=
  let p := Path.ofText text
  match find p with
  | .missing => .error (.missing text)
  | .tooLong => .error (.tooLong p)
  | .entry e => .ok (if e.isDirectory then e.scripts p else [(p, e)])

/-- The scripts that paths stand for, those of the first path first. -/
def scriptsAtAll (find : Path → Entry.Found) (texts : List Text) :
    Except PathError (List (Path × Entry)) := do
  return (← texts.mapM (scriptsAt find)).flatten

end ScriptDeps

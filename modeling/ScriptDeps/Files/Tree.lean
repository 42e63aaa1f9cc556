import ScriptDeps.Files.Path

namespace ScriptDeps

/-! # Trees of files

A directory holds entries under different names, and an entry is a file or a directory again.
-/

/-- What stands under a name. -/
inductive Entry where
  | file (content : List Nat)
  | directory (entries : List (Text × Entry))
deriving Repr

namespace Entry

/-- The entry is a directory. -/
def isDirectory : Entry → Bool
  | file _ => false
  | directory _ => true

/-! ## Entries below -/

mutual

/-- All entries below an entry, each with the names that lead to it. -/
def descendants : Entry → List (List Text × Entry)
  | file _ => []
  | directory entries => descendantsOf entries

/-- Entries and all that is below them. -/
def descendantsOf : List (Text × Entry) → List (List Text × Entry)
  | [] => []
  | (name, e) :: rest =>
    ([name], e) :: (descendants e).map (fun (names, x) => (name :: names, x)) ++ descendantsOf rest

end

/-! ## Looking up -/

/-- What a path leads to. -/
inductive Found where
  | missing
  /-- The path, or a name in it, is too long. -/
  | tooLong
  | entry (e : Entry)

/-- Follows names from an entry. The directories above it are given, the closest first; nothing is
known of what is above the last of them. -/
def walk (above : List Entry) (here : Entry) : List Text → Found
  | [] => .entry here
  | name :: rest =>
    match here with
    | file _ => .missing
    | directory entries =>
      if name = Path.up then
        match above with
        | [] => .missing
        | parent :: more => walk more parent rest
      else if Path.isNameTooLong name then .tooLong
      else match entries.lookup name with
        | none => .missing
        | some e => walk (here :: above) e rest

/-- What a relative path leads to from a directory. Nothing is known of the absolute paths. -/
def find (e : Entry) (p : Path) : Found :=
  if p.isTooLong then .tooLong
  else if p.root.isEmpty then walk [] e p.names
  else .missing

/-! ## Building -/

/-- The entry with a file put under names; what is in the way is replaced. -/
def insert (content : List Nat) : List Text → Entry → Entry
  | [], _ => file content
  | name :: rest, e =>
    let entries := match e with
      | file _ => []
      | directory entries => entries
    let old := (entries.lookup name).getD (directory [])
    let new := insert content rest old
    if (entries.lookup name).isSome then
      directory (entries.map fun (n, x) => if n = name then (n, new) else (n, x))
    else directory (entries ++ [(name, new)])

/-- The directory that holds files under these paths. -/
def ofFiles (files : List (Path × List Nat)) : Entry :=
  files.foldl (fun e (p, content) => e.insert content p.names) (directory [])

end Entry

end ScriptDeps

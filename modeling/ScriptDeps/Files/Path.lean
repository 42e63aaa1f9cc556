import ScriptDeps.Text.Utf8

namespace ScriptDeps

/-! # Paths

A path is a row of names. Names of one dot, which lead nowhere, and empty ones are left out of it;
names of two dots, which lead up, stay in it.
-/

/-- A path. -/
structure Path where
  /-- What an absolute path starts with; empty if the path is relative. -/
  root : Text := []
  names : List Text
deriving DecidableEq, Repr

namespace Path

open Text (lit)

/-- The slash between names. -/
def slash : Nat := 0x2F

/-- The name that leads up. -/
def up : Text := lit ".."

/-- What an absolute path starts with. Two slashes are something of their own, three are like
one. -/
def rootOf (t : Text) : Text :=
  match (t.takeWhile (· == slash)).length with
  | 0 => []
  | 2 => [slash, slash]
  | _ => [slash]

/-- The path that a text denotes. -/
def ofText (t : Text) : Path where
  root := rootOf t
  names := (Text.splitOn slash t).filter fun name => !name.isEmpty && name != lit "."

/-- A path as a text. -/
def text (p : Path) : Text :=
  if p.root.isEmpty && p.names.isEmpty then lit "."
  else p.root ++ Text.join [slash] p.names

/-- The path that leads on from a path. -/
def append (p : Path) (names : List Text) : Path := { p with names := p.names ++ names }

/-- The last dot of a name and what follows it. There must be something on both sides of the dot. -/
def extension (name : Text) : Text :=
  let tail := (name.reverse.takeWhile (· != 0x2E)).reverse
  if tail.isEmpty || tail.length + 1 ≥ name.length then [] else 0x2E :: tail

/-- The order of paths: name by name, and within names by code points. -/
def before (p q : Path) : Bool := go p.names q.names
where
  /-- The order of rows of names. -/
  go : List Text → List Text → Bool
    | [], [] => false
    | [], _ :: _ => true
    | _ :: _, [] => false
    | a :: s, b :: t => if a = b then go s t else Text.before a b

/-! ## Limits -/

/-- The most bytes that a name may have. -/
def maxNameBytes : Nat := 255

/-- The most bytes that a path may have. -/
def maxBytes : Nat := 4095

/-- A name that no entry can have because it is too long. -/
def isNameTooLong (name : Text) : Bool := (Text.encode name).length > maxNameBytes

/-- A path that is too long to be looked up. -/
def isTooLong (p : Path) : Bool := (Text.encode p.text).length > maxBytes

example : (ofText (lit "d//./a.js/")).text = lit "d/a.js" := by decide +kernel
example : (ofText []).text = lit "." := by decide +kernel
example : (ofText (lit "///d/../e")).text = lit "/d/../e" := by decide +kernel
example : extension (lit ".js") = [] := by decide +kernel
example : extension (lit "a.b.js") = lit ".js" := by decide +kernel
example : extension (lit "a.") = [] := by decide +kernel

end Path

end ScriptDeps

import ScriptDeps.Json.Basic
import ScriptDeps.Text.NameSet
import ScriptDeps.Text.Quoted

namespace ScriptDeps.Module

/-! # Catalogs

A catalog lists the modules that come with a platform and the versions of the packages that it can
provide, the preferred version first.
-/

/-- The modules available on a platform. -/
structure Catalog where
  native : NameSet := {}
  /-- The packages in the order in which they are listed, each with its versions. -/
  packages : List (Text × List Text) := []

/-- Why a JSON value is no catalog. -/
inductive ShapeError where
  /-- The value is no object but of that kind. -/
  | noObject (kind : String)
  | badNativeNames
  | badPackages
  | badVersions (package : Text)
deriving DecidableEq, Repr

/-- The member that lists the modules of the platform. -/
def nativeMember : String := "nativeModuleNames"

/-- The member that lists the packages. -/
def packagesMember : String := "verquireModules"

/-- An error in words. -/
def ShapeError.message : ShapeError → Text
  | noObject kind => Text.lit "Module list must be an object, got " ++ Text.lit kind
  | badNativeNames => Text.lit nativeMember ++ Text.lit " must be a list of strings"
  | badPackages => Text.lit packagesMember ++ Text.lit " must be an object"
  | badVersions package =>
    Text.lit "Versions of " ++ Text.quoted package ++ Text.lit " must be a list of strings"

namespace Catalog

/-! ## Reading and writing -/

/-- The versions of the packages. -/
def packagesOf : List (Text × Json) → Except ShapeError (List (Text × List Text))
  | [] => .ok []
  | (name, value) :: rest =>
    match value.strings? with
    | none => .error (.badVersions name)
    | some versions => (packagesOf rest).map ((name, versions) :: ·)

/-- The catalog that a JSON value describes. -/
def ofJson (j : Json) : Except ShapeError Catalog :=
  match j with
  | .object _ =>
    match (j.get? nativeMember).bind Json.strings?, j.get? packagesMember with
    | none, _ => .error .badNativeNames
    | some names, some (.object members) =>
      (packagesOf members).map fun packages => ⟨NameSet.ofList names, packages⟩
    | some _, _ => .error .badPackages
  | _ => .error (.noObject j.kindName)

/-- The JSON value that describes a catalog. -/
def toJson (c : Catalog) : Json :=
  .ofMembers [
    (nativeMember, .array (c.native.names.map .string)),
    (packagesMember, .object (c.packages.map fun p => (p.1, .array (p.2.map .string))))]

/-! ## Look-ups -/

/-- The module comes with the platform. -/
def isNative (c : Catalog) (name : Text) : Bool := c.native.contains name

/-- The versions of a package, of which there may be none. -/
def versions (c : Catalog) (name : Text) : List Text := (c.packages.lookup name).getD []

/-- The version of a package that is used by default. -/
def preferredVersion? (c : Catalog) (name : Text) : Option Text := (c.versions name).head?

end Catalog

end ScriptDeps.Module

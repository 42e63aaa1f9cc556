import ScriptDeps.Module.Catalog

namespace ScriptDeps.Module

/-! # Resolving specifiers

A specifier is a module name, perhaps with a version behind an `@`. A version that is given wins,
then a module of the platform, then the preferred version of a package.
-/

/-- A module name and the version that was given for it. -/
structure Specifier where
  name : Text
  version : Option Text
deriving DecidableEq, Repr

/-- The code point of `@`. -/
def atSign : Nat := 0x40

/-- The index of the first `@` behind the first code point. -/
def separator? (spec : Text) : Option Nat := ((spec.drop 1).findIdx? (· == atSign)).map (· + 1)

/-- The parts of a specifier. An `@` at the start belongs to the name. At any other `@`, the name
ends one code point before it and the version is empty. -/
def Specifier.ofText (spec : Text) : Specifier :=
  match separator? spec with
  | none => ⟨spec, none⟩
  | some i => ⟨spec.take (i - 1), some []⟩

/-- The version of the modules that come with the platform. -/
def nativeVersion : Text := Text.lit "<core>"

/-- What a specifier resolves to. A module that is unknown has no version. -/
structure Resolved where
  name : Text
  version : Option Text
deriving DecidableEq, Repr

/-- Resolves a specifier. -/
def resolve (c : Catalog) (s : Specifier) : Resolved :=
  match s.version with
  | some v => ⟨s.name, some v⟩
  | none =>
    if c.isNative s.name then ⟨s.name, some nativeVersion⟩
    else ⟨s.name, c.preferredVersion? s.name⟩

/-- The JSON form: a version that is not known is left out. -/
def Resolved.toJson (r : Resolved) : Json :=
  .ofMembers (("name", .string r.name) :: match r.version with
    | some v => [("version", .string v)]
    | none => [])

end ScriptDeps.Module

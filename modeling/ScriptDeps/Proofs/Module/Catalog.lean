import ScriptDeps.Module.Catalog
import ScriptDeps.Proofs.Gather

namespace ScriptDeps.Module

/-! # Which values describe catalogs

A JSON value describes a catalog if it is an object that lists the modules of the platform and the
packages with their versions. Main statements:

* `ofJson_eq_ok_iff`: the values that describe a catalog, and which one;
* `contains_ofList`: the modules of that catalog are those that are listed.
-/

/-! ## Lists of texts -/

/-- The value of a list of texts. -/
def textsJson (ts : List Text) : Json := .array (ts.map .string)

theorem strings?_textsJson (ts : List Text) : (textsJson ts).strings? = some ts := by
  rw [textsJson, Json.strings?]
  induction ts with
  | nil => rfl
  | cons t ts ih => simp [ih]

theorem eq_of_strings? {j : Json} {ts : List Text} (h : j.strings? = some ts) :
    j = textsJson ts := by
  cases j with
  | array items =>
    rw [Json.strings?] at h
    rw [textsJson]
    congr 1
    induction items generalizing ts with
    | nil =>
      cases h
      rfl
    | cons item items ih =>
      rw [List.mapM_cons] at h
      obtain ⟨t, ht, h⟩ := Option.bind_eq_some_iff.1 h
      obtain ⟨rest, hrest, h⟩ := Option.bind_eq_some_iff.1 h
      cases h
      rw [ih hrest, List.map_cons]
      congr 1
      cases item with
      | string u =>
        cases ht
        rfl
      | _ => cases ht
  | _ => cases h

/-! ## Packages -/

/-- The members that list packages with their versions. -/
def packageMembers (packages : List (Text × List Text)) : List (Text × Json) :=
  packages.map fun p => (p.1, textsJson p.2)

theorem packagesOf_packageMembers (packages : List (Text × List Text)) :
    Catalog.packagesOf (packageMembers packages) = .ok packages := by
  induction packages with
  | nil => rfl
  | cons p packages ih =>
    rw [packageMembers] at ih
    rw [packageMembers, List.map_cons, Catalog.packagesOf, strings?_textsJson, ih]
    rfl

theorem eq_of_packagesOf {members : List (Text × Json)} {packages : List (Text × List Text)}
    (h : Catalog.packagesOf members = .ok packages) : members = packageMembers packages := by
  induction members generalizing packages with
  | nil =>
    cases h
    rfl
  | cons m members ih =>
    obtain ⟨name, value⟩ := m
    rw [Catalog.packagesOf] at h
    cases hvalue : value.strings? with
    | none =>
      rw [hvalue] at h
      cases h
    | some versions =>
      rw [hvalue] at h
      obtain ⟨others, hothers, rfl⟩ := map_eq_ok.1 h
      rw [eq_of_strings? hvalue, ih hothers]
      rfl

/-! ## Catalogs -/

/-- The value lists these modules of the platform and these packages. -/
structure Lists (j : Json) (names : List Text) (packages : List (Text × List Text)) : Prop where
  names : j.get? nativeMember = some (textsJson names)
  packages : j.get? packagesMember = some (.object (packageMembers packages))

/-- A value describes a catalog exactly if it lists modules and packages. -/
theorem ofJson_eq_ok_iff {j : Json} {c : Catalog} :
    Catalog.ofJson j = .ok c ↔
      ∃ names packages, Lists j names packages ∧ c = ⟨NameSet.ofList names, packages⟩ := by
  constructor
  · intro h
    cases j with
    | object members =>
      rw [Catalog.ofJson] at h
      cases hnames : ((Json.object members).get? nativeMember).bind Json.strings? with
      | none =>
        rw [hnames] at h
        cases h
      | some names =>
        rw [hnames] at h
        obtain ⟨value, hvalue, hstrings⟩ := Option.bind_eq_some_iff.1 hnames
        rw [eq_of_strings? hstrings] at hvalue
        split at h
        · next hnone =>
          cases hnone
        · next named listed hnamed hpackages =>
          cases hnamed
          obtain ⟨packages, hok, rfl⟩ := map_eq_ok.1 h
          rw [eq_of_packagesOf hok] at hpackages
          exact ⟨names, packages, ⟨hvalue, hpackages⟩, rfl⟩
        · cases h
    | _ => cases h
  · rintro ⟨names, packages, ⟨hnames, hpackages⟩, rfl⟩
    cases j with
    | object members =>
      rw [Catalog.ofJson, hnames, hpackages, Option.bind_some, strings?_textsJson]
      dsimp only
      rw [packagesOf_packageMembers]
      rfl
    | _ => cases hnames

/-- The body that lists modules of the platform and packages. -/
def listing (names : List Text) (packages : List (Text × List Text)) : Json :=
  .ofMembers [(nativeMember, textsJson names), (packagesMember, .object (packageMembers packages))]

theorem lists_listing (names : List Text) (packages : List (Text × List Text)) :
    Lists (listing names packages) names packages := by
  have hdiffer : Text.lit nativeMember ≠ Text.lit packagesMember := by decide
  constructor
  · simp [listing, Json.ofMembers, Json.get?, Json.lookup]
  · simp [listing, Json.ofMembers, Json.get?, Json.lookup, hdiffer]

theorem ofJson_listing (names : List Text) (packages : List (Text × List Text)) :
    Catalog.ofJson (listing names packages) = .ok ⟨NameSet.ofList names, packages⟩ :=
  ofJson_eq_ok_iff.2 ⟨names, packages, lists_listing names packages, rfl⟩

theorem contains_foldl_insert (names : List Text) (s : NameSet) (name : Text) :
    (names.foldl NameSet.insert s).contains name = (names.contains name || s.contains name) := by
  induction names generalizing s with
  | nil => rfl
  | cons first names ih =>
    rw [List.foldl_cons, ih, NameSet.contains_insert, List.contains_cons]
    cases names.contains name <;> cases name == first <;> rfl

/-- Neither the order of the modules nor their repetition counts. -/
theorem contains_ofList (names : List Text) (name : Text) :
    (NameSet.ofList names).contains name = decide (name ∈ names) := by
  rw [NameSet.ofList, contains_foldl_insert]
  simp [NameSet.contains]

end ScriptDeps.Module
